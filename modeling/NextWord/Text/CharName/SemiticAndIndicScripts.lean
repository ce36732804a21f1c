/-!
# Names of the scripts from Hebrew to Tibetan

Blocks of names of Unicode 14 in the order of their code points; the module on lookup says how a
block is written.
-/

namespace NextWord.Text.CharName

def semiticAndIndicScripts : List String :=
  ["591 HEBREW ACCENT |ETNAHTA|SEGOL|SHALSHELET|ZAQEF QATAN|ZAQEF GADOL|TIPEHA|REVIA|ZARQA|PASHTA",
   "59a HEBREW ACCENT |YETIV|TEVIR|GERESH|GERESH MUQDAM|GERSHAYIM|QARNEY PARA",
   "5a0 HEBREW ACCENT |TELISHA GEDOLA|PAZER|ATNAH HAFUKH|MUNAH|MAHAPAKH|MERKHA|MERKHA KEFULA",
   "5a7 HEBREW ACCENT |DARGA|QADMA|TELISHA QETANA|YERAH BEN YOMO|OLE|ILUY|DEHI|ZINOR",
   "5af HEBREW |MARK MASORA CIRCLE|POINT SHEVA|POINT HATAF SEGOL|POINT HATAF PATAH",
   "5b3 HEBREW POINT |HATAF QAMATS|HIRIQ|TSERE|SEGOL|PATAH|QAMATS|HOLAM|HOLAM HASER FOR VAV|QUBUTS",
   "5bc HEBREW |POINT DAGESH OR MAPIQ|POINT METEG|PUNCTUATION MAQAF",
   "5bf HEBREW |POINT RAFE|PUNCTUATION PASEQ|POINT SHIN DOT|POINT SIN DOT|PUNCTUATION SOF PASUQ",
   "5c4 HEBREW |MARK UPPER DOT|MARK LOWER DOT|PUNCTUATION NUN HAFUKHA|POINT QAMATS QATAN",
   "5d0 |HEBREW LETTER ALEF",
   "5d1 HEBREW LETTER |BET|GIMEL|DALET|HE|VAV|ZAYIN|HET|TET|YOD|FINAL KAF|KAF|LAMED|FINAL MEM|MEM",
   "5df HEBREW LETTER |FINAL NUN|NUN|SAMEKH|AYIN|FINAL PE|PE|FINAL TSADI|TSADI|QOF|RESH|SHIN|TAV",
   "5ef HEBREW |YOD TRIANGLE|LIGATURE YIDDISH DOUBLE VAV|LIGATURE YIDDISH VAV YOD",
   "5f2 HEBREW |LIGATURE YIDDISH DOUBLE YOD|PUNCTUATION GERESH|PUNCTUATION GERSHAYIM",
   "600 ARABIC |NUMBER SIGN|SIGN SANAH|FOOTNOTE MARKER|SIGN SAFHA|SIGN SAMVAT|NUMBER MARK ABOVE",
   "606 |ARABIC-INDIC CUBE ROOT|ARABIC-INDIC FOURTH ROOT|ARABIC RAY",
   "609 |ARABIC-INDIC PER MILLE SIGN|ARABIC-INDIC PER TEN THOUSAND SIGN|AFGHANI SIGN|ARABIC COMMA",
   "60d ARABIC |DATE SEPARATOR|POETIC VERSE SIGN|SIGN MISRA|SIGN SALLALLAHOU ALAYHE WASSALLAM",
   "611 ARABIC SIGN |ALAYHE ASSALLAM|RAHMATULLAH ALAYHE|RADI ALLAHOU ANHU|TAKHALLUS",
   "615 ARABIC SMALL |HIGH TAH|HIGH LIGATURE ALEF WITH LAM WITH YEH|HIGH ZAIN|FATHA|DAMMA|KASRA",
   "61b ARABIC |SEMICOLON|LETTER MARK|END OF TEXT MARK|TRIPLE DOT PUNCTUATION MARK|QUESTION MARK",
   "620 ARABIC LETTER |KASHMIRI YEH|HAMZA|ALEF WITH MADDA ABOVE|ALEF WITH HAMZA ABOVE",
   "624 ARABIC LETTER |WAW WITH HAMZA ABOVE|ALEF WITH HAMZA BELOW|YEH WITH HAMZA ABOVE|ALEF",
   "628 ARABIC LETTER |BEH|TEH MARBUTA|TEH|THEH|JEEM|HAH|KHAH|DAL|THAL|REH|ZAIN|SEEN|SHEEN|SAD",
   "636 ARABIC LETTER |DAD|TAH|ZAH|AIN|GHAIN|KEHEH WITH TWO DOTS ABOVE|KEHEH WITH THREE DOTS BELOW",
   "63d ARABIC LETTER FARSI YEH WITH |INVERTED V|TWO DOTS ABOVE|THREE DOTS ABOVE",
   "640 |ARABIC TATWEEL",
   "641 ARABIC LETTER |FEH|QAF|KAF|LAM|MEEM|NOON|HEH|WAW|ALEF MAKSURA|YEH",
   "64b ARABIC |FATHATAN|DAMMATAN|KASRATAN|FATHA|DAMMA|KASRA|SHADDA|SUKUN|MADDAH ABOVE",
   "654 ARABIC |HAMZA ABOVE|HAMZA BELOW|SUBSCRIPT ALEF|INVERTED DAMMA|MARK NOON GHUNNA|ZWARAKAY",
   "65a ARABIC VOWEL SIGN |SMALL V ABOVE|INVERTED SMALL V ABOVE|DOT BELOW",
   "65d ARABIC |REVERSED DAMMA|FATHA WITH TWO DOTS|WAVY HAMZA BELOW",
   "660 ARABIC-INDIC DIGIT |ZERO|ONE|TWO|THREE|FOUR|FIVE|SIX|SEVEN|EIGHT|NINE",
   "66a ARABIC |PERCENT SIGN|DECIMAL SEPARATOR|THOUSANDS SEPARATOR|FIVE POINTED STAR",
   "66e ARABIC LETTER |DOTLESS BEH|DOTLESS QAF|SUPERSCRIPT ALEF|ALEF WASLA",
   "672 ARABIC LETTER ALEF WITH WAVY HAMZA |ABOVE|BELOW",
   "674 ARABIC LETTER |HIGH HAMZA|HIGH HAMZA ALEF|HIGH HAMZA WAW|U WITH HAMZA ABOVE|HIGH HAMZA YEH",
   "679 ARABIC LETTER |TTEH|TTEHEH|BEEH|TEH WITH RING|TEH WITH THREE DOTS ABOVE DOWNWARDS|PEH",
   "67f ARABIC LETTER |TEHEH|BEHEH|HAH WITH HAMZA ABOVE|HAH WITH TWO DOTS VERTICAL ABOVE",
   "683 ARABIC LETTER |NYEH|DYEH|HAH WITH THREE DOTS ABOVE|TCHEH|TCHEHEH|DDAL",
   "689 ARABIC LETTER DAL WITH |RING|DOT BELOW|DOT BELOW AND SMALL TAH",
   "68c ARABIC LETTER |DAHAL|DDAHAL|DUL|DAL WITH THREE DOTS ABOVE DOWNWARDS",
   "690 ARABIC LETTER |DAL WITH FOUR DOTS ABOVE|RREH|REH WITH SMALL V|REH WITH RING",
   "694 ARABIC LETTER REH WITH |DOT BELOW|SMALL V BELOW|DOT BELOW AND DOT ABOVE|TWO DOTS ABOVE",
   "698 ARABIC LETTER |JEH|REH WITH FOUR DOTS ABOVE|SEEN WITH DOT BELOW AND DOT ABOVE",
   "69b ARABIC LETTER SEEN WITH THREE DOTS |BELOW|BELOW AND THREE DOTS ABOVE",
   "69d ARABIC LETTER SAD WITH |TWO DOTS BELOW|THREE DOTS ABOVE",
   "69f ARABIC LETTER |TAH WITH THREE DOTS ABOVE|AIN WITH THREE DOTS ABOVE|DOTLESS FEH",
   "6a2 ARABIC LETTER |FEH WITH DOT MOVED BELOW|FEH WITH DOT BELOW|VEH|FEH WITH THREE DOTS BELOW",
   "6a6 ARABIC LETTER |PEHEH|QAF WITH DOT ABOVE|QAF WITH THREE DOTS ABOVE|KEHEH",
   "6aa ARABIC LETTER |SWASH KAF|KAF WITH RING|KAF WITH DOT ABOVE|NG|KAF WITH THREE DOTS BELOW|GAF",
   "6b0 ARABIC LETTER |GAF WITH RING|NGOEH|GAF WITH TWO DOTS BELOW|GUEH|GAF WITH THREE DOTS ABOVE",
   "6b5 ARABIC LETTER LAM WITH |SMALL V|DOT ABOVE|THREE DOTS ABOVE|THREE DOTS BELOW",
   "6b9 ARABIC LETTER |NOON WITH DOT BELOW|NOON GHUNNA|RNOON|NOON WITH RING",
   "6bd ARABIC LETTER |NOON WITH THREE DOTS ABOVE|HEH DOACHASHMEE|TCHEH WITH DOT ABOVE",
   "6c0 ARABIC LETTER |HEH WITH YEH ABOVE|HEH GOAL|HEH GOAL WITH HAMZA ABOVE|TEH MARBUTA GOAL",
   "6c4 ARABIC LETTER |WAW WITH RING|KIRGHIZ OE|OE|U|YU|KIRGHIZ YU|WAW WITH TWO DOTS ABOVE",
   "6cb ARABIC LETTER |VE|FARSI YEH|YEH WITH TAIL|YEH WITH SMALL V|WAW WITH DOT ABOVE|E",
   "6d1 ARABIC LETTER YEH |WITH THREE DOTS BELOW|BARREE|BARREE WITH HAMZA ABOVE",
   "6d4 ARABIC |FULL STOP|LETTER AE|SMALL HIGH LIGATURE SAD WITH LAM WITH ALEF MAKSURA",
   "6d7 ARABIC SMALL HIGH |LIGATURE QAF WITH LAM WITH ALEF MAKSURA|MEEM INITIAL FORM|LAM ALEF|JEEM",
   "6db ARABIC |SMALL HIGH THREE DOTS|SMALL HIGH SEEN|END OF AYAH|START OF RUB EL HIZB",
   "6df ARABIC SMALL HIGH |ROUNDED ZERO|UPRIGHT RECTANGULAR ZERO|DOTLESS HEAD OF KHAH",
   "6e2 ARABIC SMALL |HIGH MEEM ISOLATED FORM|LOW SEEN|HIGH MADDA|WAW|YEH|HIGH YEH|HIGH NOON",
   "6e9 ARABIC |PLACE OF SAJDAH|EMPTY CENTRE LOW STOP",
   "6eb ARABIC |EMPTY CENTRE HIGH STOP|ROUNDED HIGH STOP WITH FILLED CENTRE|SMALL LOW MEEM",
   "6ee ARABIC LETTER |DAL WITH INVERTED V|REH WITH INVERTED V",
   "6f0 EXTENDED ARABIC-INDIC DIGIT |ZERO|ONE|TWO|THREE|FOUR|FIVE|SIX|SEVEN|EIGHT|NINE",
   "6fa ARABIC LETTER |SHEEN WITH DOT BELOW|DAD WITH DOT BELOW|GHAIN WITH DOT BELOW",
   "6fd ARABIC |SIGN SINDHI AMPERSAND|SIGN SINDHI POSTPOSITION MEN|LETTER HEH WITH INVERTED V",
   "700 SYRIAC |END OF PARAGRAPH|SUPRALINEAR FULL STOP|SUBLINEAR FULL STOP|SUPRALINEAR COLON",
   "704 SYRIAC |SUBLINEAR COLON|HORIZONTAL COLON|COLON SKEWED LEFT|COLON SKEWED RIGHT",
   "708 SYRIAC |SUPRALINEAR COLON SKEWED LEFT|SUBLINEAR COLON SKEWED RIGHT|CONTRACTION",
   "70b SYRIAC HARKLEAN |OBELUS|METOBELUS|ASTERISCUS",
   "70f SYRIAC |ABBREVIATION MARK|LETTER ALAPH",
   "711 SYRIAC LETTER |SUPERSCRIPT ALAPH|BETH|GAMAL|GAMAL GARSHUNI|DALATH|DOTLESS DALATH RISH|HE",
   "718 SYRIAC LETTER |WAW|ZAIN|HETH|TETH|TETH GARSHUNI|YUDH|YUDH HE|KAPH|LAMADH|MIM|NUN|SEMKATH",
   "724 SYRIAC LETTER |FINAL SEMKATH|E|PE|REVERSED PE|SADHE|QAPH|RISH|SHIN|TAW|PERSIAN BHETH",
   "72e SYRIAC |LETTER PERSIAN GHAMAL|LETTER PERSIAN DHALATH|PTHAHA ABOVE",
   "731 SYRIAC |PTHAHA BELOW|PTHAHA DOTTED|ZQAPHA ABOVE|ZQAPHA BELOW|ZQAPHA DOTTED|RBASA ABOVE",
   "737 SYRIAC |RBASA BELOW|DOTTED ZLAMA HORIZONTAL|DOTTED ZLAMA ANGULAR|HBASA ABOVE|HBASA BELOW",
   "73c SYRIAC |HBASA-ESASA DOTTED|ESASA ABOVE|ESASA BELOW|RWAHA|FEMININE DOT|QUSHSHAYA",
   "742 SYRIAC |RUKKAKHA|TWO VERTICAL DOTS ABOVE|TWO VERTICAL DOTS BELOW|THREE DOTS ABOVE",
   "746 SYRIAC |THREE DOTS BELOW|OBLIQUE LINE ABOVE|OBLIQUE LINE BELOW|MUSIC|BARREKH",
   "74d SYRIAC LETTER SOGDIAN |ZHAIN|KHAPH|FE",
   "750 ARABIC LETTER BEH WITH |THREE DOTS HORIZONTALLY BELOW|DOT BELOW AND THREE DOTS ABOVE",
   "752 ARABIC LETTER BEH WITH THREE DOTS POINTING UPWARDS |BELOW|BELOW AND TWO DOTS ABOVE",
   "754 ARABIC LETTER BEH WITH |TWO DOTS BELOW AND DOT ABOVE|INVERTED SMALL V BELOW|SMALL V",
   "757 ARABIC LETTER HAH WITH |TWO DOTS ABOVE|THREE DOTS POINTING UPWARDS BELOW",
   "759 ARABIC LETTER DAL WITH |TWO DOTS VERTICALLY BELOW AND SMALL TAH|INVERTED SMALL V BELOW",
   "75b ARABIC LETTER |REH WITH STROKE|SEEN WITH FOUR DOTS ABOVE|AIN WITH TWO DOTS ABOVE",
   "75e ARABIC LETTER AIN WITH |THREE DOTS POINTING DOWNWARDS ABOVE|TWO DOTS VERTICALLY ABOVE",
   "760 ARABIC LETTER FEH WITH |TWO DOTS BELOW|THREE DOTS POINTING UPWARDS BELOW",
   "762 ARABIC LETTER KEHEH WITH |DOT ABOVE|THREE DOTS ABOVE|THREE DOTS POINTING UPWARDS BELOW",
   "765 ARABIC LETTER MEEM WITH DOT |ABOVE|BELOW",
   "767 ARABIC LETTER NOON WITH |TWO DOTS BELOW|SMALL TAH|SMALL V",
   "76a ARABIC LETTER |LAM WITH BAR|REH WITH TWO DOTS VERTICALLY ABOVE",
   "76c ARABIC LETTER |REH WITH HAMZA ABOVE|SEEN WITH TWO DOTS VERTICALLY ABOVE",
   "76e ARABIC LETTER HAH WITH SMALL ARABIC LETTER TAH |BELOW|AND TWO DOTS",
   "770 |ARABIC LETTER SEEN WITH SMALL ARABIC LETTER TAH AND TWO DOTS",
   "771 |ARABIC LETTER REH WITH SMALL ARABIC LETTER TAH AND TWO DOTS",
   "772 |ARABIC LETTER HAH WITH SMALL ARABIC LETTER TAH ABOVE",
   "773 ARABIC LETTER ALEF WITH EXTENDED ARABIC-INDIC DIGIT |TWO ABOVE|THREE ABOVE",
   "775 ARABIC LETTER FARSI YEH WITH EXTENDED ARABIC-INDIC DIGIT |TWO ABOVE|THREE ABOVE|FOUR BELOW",
   "778 ARABIC LETTER WAW WITH EXTENDED ARABIC-INDIC DIGIT |TWO ABOVE|THREE ABOVE",
   "77a ARABIC LETTER YEH BARREE WITH EXTENDED ARABIC-INDIC DIGIT |TWO ABOVE|THREE ABOVE",
   "77c |ARABIC LETTER HAH WITH EXTENDED ARABIC-INDIC DIGIT FOUR BELOW",
   "77d ARABIC LETTER SEEN WITH |EXTENDED ARABIC-INDIC DIGIT FOUR ABOVE|INVERTED V",
   "77f |ARABIC LETTER KAF WITH TWO DOTS ABOVE",
   "780 THAANA LETTER |HAA|SHAVIYANI|NOONU|RAA|BAA|LHAVIYANI|KAAFU|ALIFU|VAAVU|MEEMU|FAAFU|DHAALU",
   "78c THAANA LETTER |THAA|LAAMU|GAAFU|GNAVIYANI|SEENU|DAVIYANI|ZAVIYANI|TAVIYANI|YAA|PAVIYANI",
   "796 THAANA LETTER |JAVIYANI|CHAVIYANI|TTAA|HHAA|KHAA|THAALU|ZAA|SHEENU|SAADHU|DAADHU|TO|ZO",
   "7a2 THAANA |LETTER AINU|LETTER GHAINU|LETTER QAAFU|LETTER WAAVU|ABAFILI|AABAAFILI|IBIFILI",
   "7a9 THAANA |EEBEEFILI|UBUFILI|OOBOOFILI|EBEFILI|EYBEYFILI|OBOFILI|OABOAFILI|SUKUN|LETTER NAA",
   "7c0 NKO DIGIT |ZERO|ONE|TWO|THREE|FOUR|FIVE|SIX|SEVEN|EIGHT|NINE",
   "7ca NKO LETTER |A|EE|I|E|U|OO|O|DAGBASINNA|N|BA|PA|TA|JA|CHA|DA|RA|RRA|SA",
   "7dc NKO LETTER |GBA|FA|KA|LA|NA WOLOSO|MA|NYA|NA|HA|WA|YA|NYA WOLOSO|JONA JA|JONA CHA|JONA RA",
   "7eb NKO COMBINING |SHORT HIGH TONE|SHORT LOW TONE|SHORT RISING TONE|LONG DESCENDING TONE",
   "7ef NKO COMBINING |LONG HIGH TONE|LONG LOW TONE|LONG RISING TONE|NASALIZATION MARK",
   "7f3 NKO |COMBINING DOUBLE DOT ABOVE|HIGH TONE APOSTROPHE|LOW TONE APOSTROPHE",
   "7f6 NKO |SYMBOL OO DENNEN|SYMBOL GBAKURUNEN|COMMA|EXCLAMATION MARK|LAJANYALAN",
   "7fd NKO |DANTAYALAN|DOROME SIGN|TAMAN SIGN",
   "800 SAMARITAN LETTER |ALAF|BIT|GAMAN|DALAT|IY|BAA|ZEN",
   "807 SAMARITAN LETTER |IT|TIT|YUT|KAAF|LABAT|MIM|NUN|SINGAAT|IN|FI|TSAADIY|QUF|RISH|SHAN|TAAF",
   "816 SAMARITAN MARK |IN|IN-ALAF|OCCLUSION|DAGESH",
   "81a SAMARITAN |MODIFIER LETTER EPENTHETIC YUT|MARK EPENTHETIC YUT",
   "81c SAMARITAN VOWEL SIGN |LONG E|E|OVERLONG AA|LONG AA|AA|OVERLONG A|LONG A|A",
   "824 SAMARITAN |MODIFIER LETTER SHORT A|VOWEL SIGN SHORT A|VOWEL SIGN LONG U|VOWEL SIGN U",
   "828 SAMARITAN |MODIFIER LETTER I|VOWEL SIGN LONG I|VOWEL SIGN I|VOWEL SIGN O|VOWEL SIGN SUKUN",
   "82d |SAMARITAN MARK NEQUDAA",
   "830 SAMARITAN PUNCTUATION |NEQUDAA|AFSAAQ|ANGED|BAU|ATMAAU|SHIYYAALAA",
   "836 |SAMARITAN ABBREVIATION MARK",
   "837 SAMARITAN PUNCTUATION |MELODIC QITSA|ZIQAA|QITSA|ZAEF|TURU|ARKAANU|SOF MASHFAAT|ANNAAU",
   "840 MANDAIC LETTER |HALQA|AB|AG|AD|AH|USHENNA",
   "846 MANDAIC LETTER |AZ|IT|ATT|AKSA|AK|AL|AM|AN|AS|IN|AP|ASZ|AQ|AR|ASH|AT|DUSHENNA|KAD|AIN",
   "859 MANDAIC |AFFRICATION MARK|VOCALIZATION MARK|GEMINATION MARK",
   "85e |MANDAIC PUNCTUATION",
   "860 SYRIAC LETTER MALAYALAM |NGA|JA|NYA|TTA|NNA|NNNA|BHA|RA|LLA|LLLA|SSA",
   "870 ARABIC LETTER ALEF WITH ATTACHED |FATHA|TOP RIGHT FATHA",
   "872 ARABIC LETTER ALEF WITH |RIGHT MIDDLE STROKE|LEFT MIDDLE STROKE",
   "874 ARABIC LETTER ALEF WITH ATTACHED |KASRA|BOTTOM RIGHT KASRA|ROUND DOT ABOVE",
   "877 ARABIC LETTER ALEF WITH ATTACHED |RIGHT ROUND DOT|LEFT ROUND DOT|ROUND DOT BELOW",
   "87a ARABIC LETTER ALEF WITH |DOT ABOVE|ATTACHED TOP RIGHT FATHA AND DOT ABOVE",
   "87c |ARABIC LETTER ALEF WITH RIGHT MIDDLE STROKE AND DOT ABOVE",
   "87d |ARABIC LETTER ALEF WITH ATTACHED BOTTOM RIGHT KASRA AND DOT ABOVE",
   "87e |ARABIC LETTER ALEF WITH ATTACHED TOP RIGHT FATHA AND LEFT RING",
   "87f |ARABIC LETTER ALEF WITH RIGHT MIDDLE STROKE AND LEFT RING",
   "880 ARABIC LETTER ALEF WITH ATTACHED |BOTTOM RIGHT KASRA AND LEFT RING|RIGHT HAMZA|LEFT HAMZA",
   "883 ARABIC TATWEEL WITH |OVERSTRUCK HAMZA|OVERSTRUCK WAW|TWO DOTS BELOW",
   "886 ARABIC |LETTER THIN YEH|BASELINE ROUND DOT|RAISED ROUND DOT",
   "889 ARABIC LETTER |NOON WITH INVERTED SMALL V|HAH WITH INVERTED SMALL V BELOW",
   "88b ARABIC LETTER TAH WITH |DOT BELOW|THREE DOTS BELOW",
   "88d ARABIC |LETTER KEHEH WITH TWO DOTS VERTICALLY BELOW|VERTICAL TAIL",
   "890 ARABIC |POUND MARK ABOVE|PIASTRE MARK ABOVE",
   "898 ARABIC SMALL |HIGH WORD AL-JUZ|LOW WORD ISHMAAM|LOW WORD IMAALA|LOW WORD TASHEEL",
   "89c ARABIC |MADDA WAAJIB|SUPERSCRIPT ALEF MOKHASSAS|DOUBLED MADDA|HALF MADDA OVER MADDA",
   "8a0 ARABIC LETTER |BEH WITH SMALL V BELOW|BEH WITH HAMZA ABOVE|JEEM WITH TWO DOTS ABOVE",
   "8a3 ARABIC LETTER |TAH WITH TWO DOTS ABOVE|FEH WITH DOT BELOW AND THREE DOTS ABOVE",
   "8a5 ARABIC LETTER |QAF WITH DOT BELOW|LAM WITH DOUBLE BAR|MEEM WITH THREE DOTS ABOVE",
   "8a8 ARABIC LETTER YEH WITH TWO DOTS BELOW AND |HAMZA ABOVE|DOT ABOVE",
   "8aa |ARABIC LETTER REH WITH LOOP",
   "8ab ARABIC LETTER |WAW WITH DOT WITHIN|ROHINGYA YEH|LOW ALEF|DAL WITH THREE DOTS BELOW",
   "8af ARABIC LETTER |SAD WITH THREE DOTS BELOW|GAF WITH INVERTED STROKE|STRAIGHT WAW",
   "8b2 ARABIC LETTER |ZAIN WITH INVERTED V ABOVE|AIN WITH THREE DOTS BELOW|KAF WITH DOT BELOW",
   "8b5 ARABIC LETTER |QAF WITH DOT BELOW AND NO DOTS ABOVE|BEH WITH SMALL MEEM ABOVE",
   "8b7 ARABIC LETTER |PEH WITH SMALL MEEM ABOVE|TEH WITH SMALL TEH ABOVE",
   "8b9 ARABIC LETTER |REH WITH SMALL NOON ABOVE|YEH WITH TWO DOTS BELOW AND SMALL NOON ABOVE",
   "8bb ARABIC LETTER |AFRICAN FEH|AFRICAN QAF|AFRICAN NOON|PEH WITH SMALL V",
   "8bf ARABIC LETTER |TEH WITH SMALL V|TTEH WITH SMALL V|TCHEH WITH SMALL V|KEHEH WITH SMALL V",
   "8c3 ARABIC LETTER |GHAIN WITH THREE DOTS ABOVE|AFRICAN QAF WITH THREE DOTS ABOVE",
   "8c5 ARABIC LETTER JEEM WITH THREE DOTS |ABOVE|BELOW",
   "8c7 ARABIC |LETTER LAM WITH SMALL ARABIC LETTER TAH ABOVE|LETTER GRAF|SMALL FARSI YEH",
   "8ca ARABIC SMALL HIGH |FARSI YEH|YEH BARREE WITH TWO DOTS BELOW|WORD SAH|ZAH",
   "8ce ARABIC LARGE ROUND DOT |ABOVE|BELOW",
   "8d0 ARABIC |SUKUN BELOW|LARGE CIRCLE BELOW|LARGE ROUND DOT INSIDE CIRCLE BELOW|SMALL LOW WAW",
   "8d4 ARABIC SMALL HIGH |WORD AR-RUB|SAD|AIN|QAF|NOON WITH KASRA",
   "8d9 ARABIC SMALL |LOW NOON WITH KASRA|HIGH WORD ATH-THALATHA|HIGH WORD AS-SAJDA",
   "8dc ARABIC SMALL HIGH |WORD AN-NISF|WORD SAKTA|WORD QIF|WORD WAQFA|FOOTNOTE MARKER|SIGN SAFHA",
   "8e2 ARABIC |DISPUTED END OF AYAH|TURNED DAMMA BELOW",
   "8e4 ARABIC CURLY |FATHA|DAMMA|KASRA|FATHATAN|DAMMATAN|KASRATAN",
   "8ea ARABIC TONE |ONE DOT ABOVE|TWO DOTS ABOVE|LOOP ABOVE|ONE DOT BELOW|TWO DOTS BELOW",
   "8ef ARABIC |TONE LOOP BELOW|OPEN FATHATAN|OPEN DAMMATAN|OPEN KASRATAN|SMALL HIGH WAW",
   "8f4 ARABIC |FATHA WITH RING|FATHA WITH DOT ABOVE|KASRA WITH DOT BELOW|LEFT ARROWHEAD ABOVE",
   "8f8 ARABIC |RIGHT ARROWHEAD ABOVE|LEFT ARROWHEAD BELOW|RIGHT ARROWHEAD BELOW",
   "8fb ARABIC DOUBLE RIGHT ARROWHEAD |ABOVE|ABOVE WITH DOT",
   "8fd ARABIC |RIGHT ARROWHEAD ABOVE WITH DOT|DAMMA WITH DOT|MARK SIDEWAYS NOON GHUNNA",
   "900 DEVANAGARI SIGN |INVERTED CANDRABINDU|CANDRABINDU|ANUSVARA|VISARGA",
   "904 DEVANAGARI LETTER |SHORT A|A|AA|I|II|U|UU|VOCALIC R|VOCALIC L|CANDRA E|SHORT E|E|AI",
   "911 DEVANAGARI LETTER |CANDRA O|SHORT O|O|AU|KA|KHA|GA|GHA|NGA|CA|CHA|JA|JHA|NYA|TTA|TTHA|DDA",
   "922 DEVANAGARI LETTER |DDHA|NNA|TA|THA|DA|DHA|NA|NNNA|PA|PHA|BA|BHA|MA|YA|RA|RRA|LA|LLA|LLLA",
   "935 DEVANAGARI |LETTER VA|LETTER SHA|LETTER SSA|LETTER SA|LETTER HA|VOWEL SIGN OE",
   "93b DEVANAGARI |VOWEL SIGN OOE|SIGN NUKTA|SIGN AVAGRAHA|VOWEL SIGN AA|VOWEL SIGN I",
   "940 DEVANAGARI VOWEL SIGN |II|U|UU|VOCALIC R|VOCALIC RR|CANDRA E|SHORT E|E|AI|CANDRA O|SHORT O",
   "94b DEVANAGARI |VOWEL SIGN O|VOWEL SIGN AU|SIGN VIRAMA|VOWEL SIGN PRISHTHAMATRA E",
   "94f DEVANAGARI |VOWEL SIGN AW|OM|STRESS SIGN UDATTA|STRESS SIGN ANUDATTA|GRAVE ACCENT",
   "954 DEVANAGARI |ACUTE ACCENT|VOWEL SIGN CANDRA LONG E|VOWEL SIGN UE|VOWEL SIGN UUE",
   "958 DEVANAGARI LETTER |QA|KHHA|GHHA|ZA|DDDHA|RHA|FA|YYA|VOCALIC RR|VOCALIC LL",
   "962 DEVANAGARI |VOWEL SIGN VOCALIC L|VOWEL SIGN VOCALIC LL|DANDA|DOUBLE DANDA",
   "966 DEVANAGARI DIGIT |ZERO|ONE|TWO|THREE|FOUR|FIVE|SIX|SEVEN|EIGHT|NINE",
   "970 DEVANAGARI |ABBREVIATION SIGN|SIGN HIGH SPACING DOT|LETTER CANDRA A",
   "973 DEVANAGARI LETTER |OE|OOE|AW|UE|UUE|MARWARI DDA|ZHA|HEAVY YA|GGA|JJA|GLOTTAL STOP|DDDA|BBA",
   "980 BENGALI |ANJI|SIGN CANDRABINDU|SIGN ANUSVARA|SIGN VISARGA",
   "985 BENGALI LETTER |A|AA|I|II|U|UU|VOCALIC R|VOCALIC L",
   "98f BENGALI LETTER |E|AI",
   "993 BENGALI LETTER |O|AU|KA",
   "996 BENGALI LETTER |KHA|GA|GHA|NGA|CA|CHA|JA|JHA|NYA|TTA|TTHA|DDA|DDHA|NNA|TA|THA|DA|DHA|NA",
   "9aa BENGALI LETTER |PA|PHA|BA|BHA|MA|YA|RA",
   "9b2 |BENGALI LETTER LA",
   "9b6 BENGALI LETTER |SHA|SSA|SA|HA",
   "9bc BENGALI SIGN |NUKTA|AVAGRAHA",
   "9be BENGALI VOWEL SIGN |AA|I|II|U|UU|VOCALIC R|VOCALIC RR",
   "9c7 BENGALI VOWEL SIGN |E|AI",
   "9cb BENGALI |VOWEL SIGN O|VOWEL SIGN AU|SIGN VIRAMA|LETTER KHANDA TA",
   "9d7 |BENGALI AU LENGTH MARK",
   "9dc BENGALI LETTER |RRA|RHA",
   "9df BENGALI LETTER |YYA|VOCALIC RR|VOCALIC LL",
   "9e2 BENGALI VOWEL SIGN VOCALIC |L|LL",
   "9e6 BENGALI DIGIT |ZERO|ONE|TWO|THREE|FOUR|FIVE|SIX|SEVEN|EIGHT|NINE",
   "9f0 BENGALI LETTER RA WITH |MIDDLE DIAGONAL|LOWER DIAGONAL",
   "9f2 BENGALI RUPEE |MARK|SIGN",
   "9f4 BENGALI CURRENCY NUMERATOR |ONE|TWO|THREE|FOUR|ONE LESS THAN THE DENOMINATOR",
   "9f9 BENGALI |CURRENCY DENOMINATOR SIXTEEN|ISSHAR|GANDA MARK|LETTER VEDIC ANUSVARA",
   "9fd BENGALI |ABBREVIATION SIGN|SANDHI MARK",
   "a01 GURMUKHI SIGN |ADAK BINDI|BINDI|VISARGA",
   "a05 GURMUKHI LETTER |A|AA|I|II|U|UU",
   "a0f GURMUKHI LETTER |EE|AI",
   "a13 GURMUKHI LETTER |OO|AU|KA",
   "a16 GURMUKHI LETTER |KHA|GA|GHA|NGA|CA|CHA|JA|JHA|NYA|TTA|TTHA|DDA|DDHA|NNA|TA|THA|DA|DHA|NA",
   "a2a GURMUKHI LETTER |PA|PHA|BA|BHA|MA|YA|RA",
   "a32 GURMUKHI LETTER |LA|LLA",
   "a35 GURMUKHI LETTER |VA|SHA",
   "a38 GURMUKHI LETTER |SA|HA",
   "a3c |GURMUKHI SIGN NUKTA",
   "a3e GURMUKHI VOWEL SIGN |AA|I|II|U|UU",
   "a47 GURMUKHI VOWEL SIGN |EE|AI",
   "a4b GURMUKHI |VOWEL SIGN OO|VOWEL SIGN AU|SIGN VIRAMA",
   "a51 |GURMUKHI SIGN UDAAT",
   "a59 GURMUKHI LETTER |KHHA|GHHA|ZA|RRA",
   "a5e |GURMUKHI LETTER FA",
   "a66 GURMUKHI DIGIT |ZERO|ONE|TWO|THREE|FOUR|FIVE|SIX|SEVEN|EIGHT|NINE",
   "a70 GURMUKHI |TIPPI|ADDAK|IRI|URA|EK ONKAR|SIGN YAKASH|ABBREVIATION SIGN",
   "a81 GUJARATI SIGN |CANDRABINDU|ANUSVARA|VISARGA",
   "a85 GUJARATI LETTER |A|AA|I|II|U|UU|VOCALIC R|VOCALIC L",
   "a8d |GUJARATI VOWEL CANDRA E",
   "a8f GUJARATI |LETTER E|LETTER AI|VOWEL CANDRA O",
   "a93 GUJARATI LETTER |O|AU|KA",
   "a96 GUJARATI LETTER |KHA|GA|GHA|NGA|CA|CHA|JA|JHA|NYA|TTA|TTHA|DDA|DDHA|NNA|TA|THA|DA|DHA|NA",
   "aaa GUJARATI LETTER |PA|PHA|BA|BHA|MA|YA|RA",
   "ab2 GUJARATI LETTER |LA|LLA",
   "ab5 GUJARATI LETTER |VA|SHA|SSA|SA|HA",
   "abc GUJARATI SIGN |NUKTA|AVAGRAHA",
   "abe GUJARATI VOWEL SIGN |AA|I|II|U|UU|VOCALIC R|VOCALIC RR|CANDRA E",
   "ac7 GUJARATI VOWEL SIGN |E|AI|CANDRA O",
   "acb GUJARATI |VOWEL SIGN O|VOWEL SIGN AU|SIGN VIRAMA",
   "ad0 |GUJARATI OM",
   "ae0 GUJARATI |LETTER VOCALIC RR|LETTER VOCALIC LL|VOWEL SIGN VOCALIC L|VOWEL SIGN VOCALIC LL",
   "ae6 GUJARATI DIGIT |ZERO|ONE|TWO|THREE|FOUR|FIVE|SIX|SEVEN|EIGHT|NINE",
   "af0 GUJARATI |ABBREVIATION SIGN|RUPEE SIGN",
   "af9 GUJARATI |LETTER ZHA|SIGN SUKUN|SIGN SHADDA",
   "afc GUJARATI SIGN |MADDAH|THREE-DOT NUKTA ABOVE|CIRCLE NUKTA ABOVE|TWO-CIRCLE NUKTA ABOVE",
   "b01 ORIYA SIGN |CANDRABINDU|ANUSVARA|VISARGA",
   "b05 ORIYA LETTER |A|AA|I|II|U|UU|VOCALIC R|VOCALIC L",
   "b0f ORIYA LETTER |E|AI",
   "b13 ORIYA LETTER |O|AU",
   "b15 ORIYA LETTER |KA|KHA|GA|GHA|NGA|CA|CHA|JA|JHA|NYA|TTA|TTHA|DDA|DDHA|NNA|TA|THA|DA|DHA|NA",
   "b2a ORIYA LETTER |PA|PHA|BA|BHA|MA|YA|RA",
   "b32 ORIYA LETTER |LA|LLA",
   "b35 ORIYA LETTER |VA|SHA|SSA|SA|HA",
   "b3c ORIYA SIGN |NUKTA|AVAGRAHA",
   "b3e ORIYA VOWEL SIGN |AA|I|II|U|UU|VOCALIC R|VOCALIC RR",
   "b47 ORIYA VOWEL SIGN |E|AI",
   "b4b ORIYA |VOWEL SIGN O|VOWEL SIGN AU|SIGN VIRAMA",
   "b55 ORIYA |SIGN OVERLINE|AI LENGTH MARK|AU LENGTH MARK",
   "b5c ORIYA LETTER |RRA|RHA",
   "b5f ORIYA LETTER |YYA|VOCALIC RR|VOCALIC LL",
   "b62 ORIYA VOWEL SIGN VOCALIC |L|LL",
   "b66 ORIYA DIGIT |ZERO|ONE|TWO|THREE|FOUR|FIVE|SIX|SEVEN|EIGHT|NINE",
   "b70 ORIYA |ISSHAR|LETTER WA|FRACTION ONE QUARTER",
   "b73 ORIYA FRACTION |ONE HALF|THREE QUARTERS|ONE SIXTEENTH|ONE EIGHTH|THREE SIXTEENTHS",
   "b82 TAMIL SIGN |ANUSVARA|VISARGA",
   "b85 TAMIL LETTER |A|AA|I|II|U|UU",
   "b8e TAMIL LETTER |E|EE|AI",
   "b92 TAMIL LETTER |O|OO|AU|KA",
   "b99 TAMIL LETTER |NGA|CA",
   "b9c |TAMIL LETTER JA",
   "b9e TAMIL LETTER |NYA|TTA",
   "ba3 TAMIL LETTER |NNA|TA",
   "ba8 TAMIL LETTER |NA|NNNA|PA",
   "bae TAMIL LETTER |MA|YA|RA|RRA|LA|LLA|LLLA|VA|SHA|SSA|SA|HA",
   "bbe TAMIL VOWEL SIGN |AA|I|II|U|UU",
   "bc6 TAMIL VOWEL SIGN |E|EE|AI",
   "bca TAMIL |VOWEL SIGN O|VOWEL SIGN OO|VOWEL SIGN AU|SIGN VIRAMA",
   "bd0 |TAMIL OM",
   "bd7 |TAMIL AU LENGTH MARK",
   "be6 TAMIL DIGIT |ZERO|ONE|TWO|THREE|FOUR|FIVE|SIX|SEVEN|EIGHT|NINE",
   "bf0 TAMIL |NUMBER TEN|NUMBER ONE HUNDRED|NUMBER ONE THOUSAND|DAY SIGN",
   "bf4 TAMIL |MONTH SIGN|YEAR SIGN|DEBIT SIGN|CREDIT SIGN|AS ABOVE SIGN|RUPEE SIGN|NUMBER SIGN",
   "c00 |TELUGU SIGN COMBINING CANDRABINDU ABOVE",
   "c01 TELUGU SIGN |CANDRABINDU|ANUSVARA|VISARGA|COMBINING ANUSVARA ABOVE",
   "c05 TELUGU LETTER |A|AA|I|II|U|UU|VOCALIC R|VOCALIC L",
   "c0e TELUGU LETTER |E|EE|AI",
   "c12 TELUGU LETTER |O|OO|AU",
   "c15 TELUGU LETTER |KA|KHA|GA|GHA|NGA|CA|CHA|JA|JHA|NYA|TTA|TTHA|DDA|DDHA|NNA|TA|THA|DA|DHA|NA",
   "c2a TELUGU LETTER |PA|PHA|BA|BHA|MA|YA|RA|RRA|LA|LLA|LLLA|VA|SHA|SSA|SA|HA",
   "c3c TELUGU SIGN |NUKTA|AVAGRAHA",
   "c3e TELUGU VOWEL SIGN |AA|I|II|U|UU|VOCALIC R|VOCALIC RR",
   "c46 TELUGU VOWEL SIGN |E|EE|AI",
   "c4a TELUGU |VOWEL SIGN O|VOWEL SIGN OO|VOWEL SIGN AU|SIGN VIRAMA",
   "c55 TELUGU |LENGTH MARK|AI LENGTH MARK",
   "c58 TELUGU LETTER |TSA|DZA|RRRA",
   "c5d |TELUGU LETTER NAKAARA POLLU",
   "c60 TELUGU |LETTER VOCALIC RR|LETTER VOCALIC LL|VOWEL SIGN VOCALIC L|VOWEL SIGN VOCALIC LL",
   "c66 TELUGU DIGIT |ZERO|ONE|TWO|THREE|FOUR|FIVE|SIX|SEVEN|EIGHT|NINE",
   "c77 |TELUGU SIGN SIDDHAM",
   "c78 TELUGU FRACTION DIGIT |ZERO FOR ODD POWERS OF FOUR|ONE FOR ODD POWERS OF FOUR",
   "c7a TELUGU FRACTION DIGIT |TWO FOR ODD POWERS OF FOUR|THREE FOR ODD POWERS OF FOUR",
   "c7c TELUGU FRACTION DIGIT |ONE FOR EVEN POWERS OF FOUR|TWO FOR EVEN POWERS OF FOUR",
   "c7e TELUGU |FRACTION DIGIT THREE FOR EVEN POWERS OF FOUR|SIGN TUUMU",
   "c80 KANNADA SIGN |SPACING CANDRABINDU|CANDRABINDU|ANUSVARA|VISARGA|SIDDHAM",
   "c85 KANNADA LETTER |A|AA|I|II|U|UU|VOCALIC R|VOCALIC L",
   "c8e KANNADA LETTER |E|EE|AI",
   "c92 KANNADA LETTER |O|OO|AU",
   "c95 KANNADA LETTER |KA|KHA|GA|GHA|NGA|CA|CHA|JA|JHA|NYA|TTA|TTHA|DDA|DDHA|NNA|TA|THA|DA|DHA|NA",
   "caa KANNADA LETTER |PA|PHA|BA|BHA|MA|YA|RA|RRA|LA|LLA",
   "cb5 KANNADA LETTER |VA|SHA|SSA|SA|HA",
   "cbc KANNADA SIGN |NUKTA|AVAGRAHA",
   "cbe KANNADA VOWEL SIGN |AA|I|II|U|UU|VOCALIC R|VOCALIC RR",
   "cc6 KANNADA VOWEL SIGN |E|EE|AI",
   "cca KANNADA |VOWEL SIGN O|VOWEL SIGN OO|VOWEL SIGN AU|SIGN VIRAMA",
   "cd5 KANNADA |LENGTH MARK|AI LENGTH MARK",
   "cdd KANNADA LETTER |NAKAARA POLLU|FA",
   "ce0 KANNADA |LETTER VOCALIC RR|LETTER VOCALIC LL|VOWEL SIGN VOCALIC L|VOWEL SIGN VOCALIC LL",
   "ce6 KANNADA DIGIT |ZERO|ONE|TWO|THREE|FOUR|FIVE|SIX|SEVEN|EIGHT|NINE",
   "cf1 KANNADA SIGN |JIHVAMULIYA|UPADHMANIYA",
   "d00 MALAYALAM SIGN |COMBINING ANUSVARA ABOVE|CANDRABINDU|ANUSVARA|VISARGA",
   "d04 MALAYALAM LETTER |VEDIC ANUSVARA|A|AA|I|II|U|UU|VOCALIC R|VOCALIC L",
   "d0e MALAYALAM LETTER |E|EE|AI",
   "d12 MALAYALAM LETTER |O|OO|AU|KA|KHA|GA|GHA|NGA|CA|CHA|JA|JHA|NYA|TTA|TTHA|DDA|DDHA|NNA|TA|THA",
   "d26 MALAYALAM LETTER |DA|DHA|NA|NNNA|PA|PHA|BA|BHA|MA|YA|RA|RRA|LA|LLA|LLLA|VA|SHA|SSA|SA|HA",
   "d3a MALAYALAM |LETTER TTTA|SIGN VERTICAL BAR VIRAMA|SIGN CIRCULAR VIRAMA|SIGN AVAGRAHA",
   "d3e MALAYALAM VOWEL SIGN |AA|I|II|U|UU|VOCALIC R|VOCALIC RR",
   "d46 MALAYALAM VOWEL SIGN |E|EE|AI",
   "d4a MALAYALAM |VOWEL SIGN O|VOWEL SIGN OO|VOWEL SIGN AU|SIGN VIRAMA|LETTER DOT REPH|SIGN PARA",
   "d54 MALAYALAM LETTER CHILLU |M|Y|LLL",
   "d57 MALAYALAM |AU LENGTH MARK|FRACTION ONE ONE-HUNDRED-AND-SIXTIETH|FRACTION ONE FORTIETH",
   "d5a MALAYALAM FRACTION |THREE EIGHTIETHS|ONE TWENTIETH|ONE TENTH|THREE TWENTIETHS|ONE FIFTH",
   "d5f MALAYALAM LETTER |ARCHAIC II|VOCALIC RR|VOCALIC LL",
   "d62 MALAYALAM VOWEL SIGN VOCALIC |L|LL",
   "d66 MALAYALAM DIGIT |ZERO|ONE|TWO|THREE|FOUR|FIVE|SIX|SEVEN|EIGHT|NINE",
   "d70 MALAYALAM NUMBER |TEN|ONE HUNDRED|ONE THOUSAND",
   "d73 MALAYALAM FRACTION |ONE QUARTER|ONE HALF|THREE QUARTERS|ONE SIXTEENTH|ONE EIGHTH",
   "d78 MALAYALAM |FRACTION THREE SIXTEENTHS|DATE MARK",
   "d7a MALAYALAM LETTER CHILLU |NN|N|RR|L|LL|K",
   "d81 SINHALA SIGN |CANDRABINDU|ANUSVARAYA|VISARGAYA",
   "d85 SINHALA LETTER |AYANNA|AAYANNA|AEYANNA|AEEYANNA|IYANNA|IIYANNA|UYANNA|UUYANNA|IRUYANNA",
   "d8e SINHALA LETTER |IRUUYANNA|ILUYANNA|ILUUYANNA|EYANNA|EEYANNA|AIYANNA|OYANNA|OOYANNA|AUYANNA",
   "d9a SINHALA LETTER |ALPAPRAANA KAYANNA|MAHAAPRAANA KAYANNA|ALPAPRAANA GAYANNA",
   "d9d SINHALA LETTER |MAHAAPRAANA GAYANNA|KANTAJA NAASIKYAYA|SANYAKA GAYANNA|ALPAPRAANA CAYANNA",
   "da1 SINHALA LETTER |MAHAAPRAANA CAYANNA|ALPAPRAANA JAYANNA|MAHAAPRAANA JAYANNA",
   "da4 SINHALA LETTER |TAALUJA NAASIKYAYA|TAALUJA SANYOOGA NAAKSIKYAYA|SANYAKA JAYANNA",
   "da7 SINHALA LETTER |ALPAPRAANA TTAYANNA|MAHAAPRAANA TTAYANNA|ALPAPRAANA DDAYANNA",
   "daa SINHALA LETTER |MAHAAPRAANA DDAYANNA|MUURDHAJA NAYANNA|SANYAKA DDAYANNA|ALPAPRAANA TAYANNA",
   "dae SINHALA LETTER |MAHAAPRAANA TAYANNA|ALPAPRAANA DAYANNA|MAHAAPRAANA DAYANNA|DANTAJA NAYANNA",
   "db3 SINHALA LETTER |SANYAKA DAYANNA|ALPAPRAANA PAYANNA|MAHAAPRAANA PAYANNA|ALPAPRAANA BAYANNA",
   "db7 SINHALA LETTER |MAHAAPRAANA BAYANNA|MAYANNA|AMBA BAYANNA|YAYANNA|RAYANNA",
   "dbd |SINHALA LETTER DANTAJA LAYANNA",
   "dc0 SINHALA LETTER |VAYANNA|TAALUJA SAYANNA",
   "dc2 SINHALA LETTER |MUURDHAJA SAYANNA|DANTAJA SAYANNA|HAYANNA|MUURDHAJA LAYANNA|FAYANNA",
   "dca |SINHALA SIGN AL-LAKUNA",
   "dcf SINHALA VOWEL SIGN |AELA-PILLA|KETTI AEDA-PILLA",
   "dd1 SINHALA VOWEL SIGN |DIGA AEDA-PILLA|KETTI IS-PILLA|DIGA IS-PILLA|KETTI PAA-PILLA",
   "dd6 |SINHALA VOWEL SIGN DIGA PAA-PILLA",
   "dd8 SINHALA VOWEL SIGN |GAETTA-PILLA|KOMBUVA|DIGA KOMBUVA|KOMBU DEKA|KOMBUVA HAA AELA-PILLA",
   "ddd SINHALA VOWEL SIGN |KOMBUVA HAA DIGA AELA-PILLA|KOMBUVA HAA GAYANUKITTA|GAYANUKITTA",
   "de6 SINHALA LITH DIGIT |ZERO|ONE|TWO|THREE|FOUR|FIVE|SIX|SEVEN|EIGHT|NINE",
   "df2 SINHALA |VOWEL SIGN DIGA GAETTA-PILLA|VOWEL SIGN DIGA GAYANUKITTA|PUNCTUATION KUNDDALIYA",
   "e01 THAI CHARACTER |KO KAI|KHO KHAI|KHO KHUAT|KHO KHWAI|KHO KHON|KHO RAKHANG|NGO NGU|CHO CHAN",
   "e09 THAI CHARACTER |CHO CHING|CHO CHANG|SO SO|CHO CHOE|YO YING|DO CHADA|TO PATAK|THO THAN",
   "e11 THAI CHARACTER |THO NANGMONTHO|THO PHUTHAO|NO NEN|DO DEK|TO TAO|THO THUNG|THO THAHAN",
   "e18 THAI CHARACTER |THO THONG|NO NU|BO BAIMAI|PO PLA|PHO PHUNG|FO FA|PHO PHAN|FO FAN",
   "e20 THAI CHARACTER |PHO SAMPHAO|MO MA|YO YAK|RO RUA|RU|LO LING|LU|WO WAEN|SO SALA|SO RUSI",
   "e2a THAI CHARACTER |SO SUA|HO HIP|LO CHULA|O ANG|HO NOKHUK|PAIYANNOI|SARA A|MAI HAN-AKAT",
   "e32 THAI CHARACTER |SARA AA|SARA AM|SARA I|SARA II|SARA UE|SARA UEE|SARA U|SARA UU|PHINTHU",
   "e3f THAI |CURRENCY SYMBOL BAHT|CHARACTER SARA E|CHARACTER SARA AE",
   "e42 THAI CHARACTER |SARA O|SARA AI MAIMUAN|SARA AI MAIMALAI|LAKKHANGYAO|MAIYAMOK|MAITAIKHU",
   "e48 THAI CHARACTER |MAI EK|MAI THO|MAI TRI|MAI CHATTAWA|THANTHAKHAT|NIKHAHIT|YAMAKKAN|FONGMAN",
   "e50 THAI DIGIT |ZERO|ONE|TWO|THREE|FOUR|FIVE|SIX|SEVEN|EIGHT|NINE",
   "e5a THAI CHARACTER |ANGKHANKHU|KHOMUT",
   "e81 LAO LETTER |KO|KHO SUNG",
   "e84 |LAO LETTER KHO TAM",
   "e86 LAO LETTER |PALI GHA|NGO|CO|PALI CHA|SO TAM",
   "e8c LAO LETTER |PALI JHA|NYO|PALI NYA|PALI TTA|PALI TTHA|PALI DDA|PALI DDHA|PALI NNA|DO|TO",
   "e96 LAO LETTER THO |SUNG|TAM",
   "e98 LAO LETTER |PALI DHA|NO|BO|PO|PHO SUNG|FO TAM|PHO TAM|FO SUNG|PALI BHA|MO|YO|LO LING",
   "ea5 |LAO LETTER LO LOOT",
   "ea7 LAO LETTER |WO|SANSKRIT SHA|SANSKRIT SSA|SO SUNG|HO SUNG|PALI LLA|O|HO TAM",
   "eaf |LAO ELLIPSIS",
   "eb0 LAO VOWEL SIGN |A|MAI KAN|AA|AM|I|II|Y|YY|U|UU",
   "eba LAO |SIGN PALI VIRAMA|VOWEL SIGN MAI KON|SEMIVOWEL SIGN LO|SEMIVOWEL SIGN NYO",
   "ec0 LAO VOWEL SIGN |E|EI|O|AY|AI",
   "ec6 |LAO KO LA",
   "ec8 LAO |TONE MAI EK|TONE MAI THO|TONE MAI TI|TONE MAI CATAWA|CANCELLATION MARK|NIGGAHITA",
   "ed0 LAO DIGIT |ZERO|ONE|TWO|THREE|FOUR|FIVE|SIX|SEVEN|EIGHT|NINE",
   "edc LAO |HO NO|HO MO|LETTER KHMU GO|LETTER KHMU NYO",
   "f00 TIBETAN |SYLLABLE OM|MARK GTER YIG MGO TRUNCATED A|MARK GTER YIG MGO -UM RNAM BCAD MA",
   "f03 TIBETAN MARK |GTER YIG MGO -UM GTER TSHEG MA|INITIAL YIG MGO MDUN MA",
   "f05 TIBETAN MARK |CLOSING YIG MGO SGAB MA|CARET YIG MGO PHUR SHAD MA|YIG MGO TSHEG SHAD MA",
   "f08 TIBETAN MARK |SBRUL SHAD|BSKUR YIG MGO|BKA- SHOG YIG MGO|INTERSYLLABIC TSHEG",
   "f0c TIBETAN MARK |DELIMITER TSHEG BSTAR|SHAD|NYIS SHAD|TSHEG SHAD|NYIS TSHEG SHAD",
   "f11 TIBETAN MARK |RIN CHEN SPUNGS SHAD|RGYA GRAM SHAD|CARET -DZUD RTAGS ME LONG CAN|GTER TSHEG",
   "f15 TIBETAN LOGOTYPE SIGN |CHAD RTAGS|LHAG RTAGS",
   "f17 TIBETAN ASTROLOGICAL SIGN |SGRA GCAN -CHAR RTAGS|-KHYUD PA|SDONG TSHUGS",
   "f1a TIBETAN SIGN RDEL |DKAR GCIG|DKAR GNYIS|DKAR GSUM|NAG GCIG|NAG GNYIS|DKAR RDEL NAG",
   "f20 TIBETAN DIGIT |ZERO|ONE|TWO|THREE|FOUR|FIVE|SIX|SEVEN|EIGHT|NINE",
   "f2a TIBETAN DIGIT HALF |ONE|TWO|THREE|FOUR|FIVE|SIX|SEVEN|EIGHT|NINE|ZERO",
   "f34 TIBETAN MARK |BSDUS RTAGS|NGAS BZUNG NYI ZLA|CARET -DZUD RTAGS BZHI MIG CAN",
   "f37 TIBETAN MARK |NGAS BZUNG SGOR RTAGS|CHE MGO|TSA -PHRU|GUG RTAGS GYON|GUG RTAGS GYAS",
   "f3c TIBETAN |MARK ANG KHANG GYON|MARK ANG KHANG GYAS|SIGN YAR TSHES|SIGN MAR TSHES",
   "f40 TIBETAN LETTER |KA|KHA|GA|GHA|NGA|CA|CHA|JA",
   "f49 TIBETAN LETTER |NYA|TTA|TTHA|DDA|DDHA|NNA|TA|THA|DA|DHA|NA|PA|PHA|BA|BHA|MA|TSA|TSHA",
   "f5b TIBETAN LETTER |DZA|DZHA|WA|ZHA|ZA|-A|YA|RA|LA|SHA|SSA|SA|HA|A|KSSA|FIXED-FORM RA|KKA|RRA",
   "f71 TIBETAN VOWEL SIGN |AA|I|II|U|UU|VOCALIC R|VOCALIC RR|VOCALIC L|VOCALIC LL|E|EE|O|OO",
   "f7e TIBETAN SIGN |RJES SU NGA RO|RNAM BCAD",
   "f80 TIBETAN |VOWEL SIGN REVERSED I|VOWEL SIGN REVERSED II|SIGN NYI ZLA NAA DA",
   "f83 TIBETAN |SIGN SNA LDAN|MARK HALANTA|MARK PALUTA|SIGN LCI RTAGS|SIGN YANG RTAGS",
   "f88 TIBETAN SIGN |LCE TSA CAN|MCHU CAN|GRU CAN RGYINGS|GRU MED RGYINGS|INVERTED MCHU CAN",
   "f8d TIBETAN SUBJOINED SIGN |LCE TSA CAN|MCHU CAN|INVERTED MCHU CAN",
   "f90 TIBETAN SUBJOINED LETTER |KA|KHA|GA|GHA|NGA|CA|CHA|JA",
   "f99 TIBETAN SUBJOINED LETTER |NYA|TTA|TTHA|DDA|DDHA|NNA|TA|THA|DA|DHA|NA|PA|PHA|BA|BHA",
   "fa8 TIBETAN SUBJOINED LETTER |MA|TSA|TSHA|DZA|DZHA|WA|ZHA|ZA|-A|YA|RA|LA|SHA|SSA|SA|HA|A|KSSA",
   "fba TIBETAN SUBJOINED LETTER FIXED-FORM |WA|YA|RA",
   "fbe TIBETAN KU RU |KHA|KHA BZHI MIG CAN",
   "fc0 TIBETAN CANTILLATION SIGN |HEAVY BEAT|LIGHT BEAT|CANG TE-U|SBUB -CHAL",
   "fc4 TIBETAN SYMBOL |DRIL BU|RDO RJE|PADMA GDAN|RDO RJE RGYA GRAM|PHUR PA|NOR BU",
   "fca TIBETAN SYMBOL NOR BU |NYIS -KHYIL|GSUM -KHYIL|BZHI -KHYIL",
   "fce TIBETAN SIGN RDEL NAG |RDEL DKAR|GSUM",
   "fd0 TIBETAN MARK |BSKA- SHOG GI MGO RGYAN|MNYAM YIG GI MGO RGYAN|NYIS TSHEG",
   "fd3 TIBETAN MARK |INITIAL BRDA RNYING YIG MGO MDUN MA|CLOSING BRDA RNYING YIG MGO SGAB MA",
   "fd5 |RIGHT-FACING SVASTI SIGN|LEFT-FACING SVASTI SIGN",
   "fd7 |RIGHT-FACING SVASTI SIGN WITH DOTS|LEFT-FACING SVASTI SIGN WITH DOTS",
   "fd9 TIBETAN MARK |LEADING MCHAN RTAGS|TRAILING MCHAN RTAGS"]

end NextWord.Text.CharName
