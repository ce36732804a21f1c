/-!
# Names of musical symbols, mathematical alphabets and the writing of signed languages

Blocks of names of Unicode 14 in the order of their code points; the module on lookup says how a
block is written.
-/

namespace NextWord.Text.CharName

def musicToMovement : List String :=
  ["1d000 BYZANTINE MUSICAL SYMBOL |PSILI|DASEIA|PERISPOMENI|OXEIA EKFONITIKON|OXEIA DIPLI",
   "1d005 BYZANTINE MUSICAL SYMBOL |VAREIA EKFONITIKON|VAREIA DIPLI|KATHISTI|SYRMATIKI|PARAKLITIKI",
   "1d00a BYZANTINE MUSICAL SYMBOL |YPOKRISIS|YPOKRISIS DIPLI|KREMASTI|APESO EKFONITIKON",
   "1d00e BYZANTINE MUSICAL SYMBOL |EXO EKFONITIKON|TELEIA|KENTIMATA|APOSTROFOS|APOSTROFOS DIPLI",
   "1d013 BYZANTINE MUSICAL SYMBOL |SYNEVMA|THITA|OLIGON ARCHAION|GORGON ARCHAION",
   "1d017 BYZANTINE MUSICAL SYMBOL |PSILON|CHAMILON|VATHY|ISON ARCHAION|KENTIMA ARCHAION",
   "1d01c BYZANTINE MUSICAL SYMBOL |KENTIMATA ARCHAION|SAXIMATA|PARICHON|STAVROS APODEXIA",
   "1d020 BYZANTINE MUSICAL SYMBOL |OXEIAI ARCHAION|VAREIAI ARCHAION|APODERMA ARCHAION|APOTHEMA",
   "1d024 BYZANTINE MUSICAL SYMBOL |KLASMA|REVMA|PIASMA ARCHAION|TINAGMA|ANATRICHISMA|SEISMA",
   "1d02a BYZANTINE MUSICAL SYMBOL SYNAGMA |ARCHAION|META STAVROU",
   "1d02c BYZANTINE MUSICAL SYMBOL |OYRANISMA ARCHAION|THEMA|LEMOI|DYO|TRIA|TESSERA|KRATIMATA",
   "1d033 BYZANTINE MUSICAL SYMBOL |APESO EXO NEO|FTHORA ARCHAION|IMIFTHORA|TROMIKON ARCHAION",
   "1d037 BYZANTINE MUSICAL SYMBOL |KATAVA TROMIKON|PELASTON|PSIFISTON|KONTEVMA|CHOREVMA ARCHAION",
   "1d03c BYZANTINE MUSICAL SYMBOL |RAPISMA|PARAKALESMA ARCHAION|PARAKLITIKI ARCHAION|ICHADIN|NANA",
   "1d041 BYZANTINE MUSICAL SYMBOL |PETASMA|KONTEVMA ALLO|TROMIKON ALLO|STRAGGISMATA|GRONTHISMATA",
   "1d046 BYZANTINE MUSICAL SYMBOL |ISON NEO|OLIGON NEO|OXEIA NEO|PETASTI|KOUFISMA",
   "1d04b BYZANTINE MUSICAL SYMBOL |PETASTOKOUFISMA|KRATIMOKOUFISMA|PELASTON NEO|KENTIMATA NEO ANO",
   "1d04f BYZANTINE MUSICAL SYMBOL |KENTIMA NEO ANO|YPSILI|APOSTROFOS NEO|APOSTROFOI SYNDESMOS NEO",
   "1d053 BYZANTINE MUSICAL SYMBOL |YPORROI|KRATIMOYPORROON|ELAFRON|CHAMILI|MIKRON ISON",
   "1d058 BYZANTINE MUSICAL SYMBOL |VAREIA NEO|PIASMA NEO|PSIFISTON NEO|OMALON|ANTIKENOMA|LYGISMA",
   "1d05e BYZANTINE MUSICAL SYMBOL |PARAKLITIKI NEO|PARAKALESMA NEO|ETERON PARAKALESMA|KYLISMA",
   "1d062 BYZANTINE MUSICAL SYMBOL |ANTIKENOKYLISMA|TROMIKON NEO|EKSTREPTON|SYNAGMA NEO|SYRMA",
   "1d067 BYZANTINE MUSICAL SYMBOL |CHOREVMA NEO|EPEGERMA|SEISMA NEO|XIRON KLASMA|TROMIKOPSIFISTON",
   "1d06c BYZANTINE MUSICAL SYMBOL |PSIFISTOLYGISMA|TROMIKOLYGISMA|TROMIKOPARAKALESMA",
   "1d06f BYZANTINE MUSICAL SYMBOL |PSIFISTOPARAKALESMA|TROMIKOSYNAGMA|PSIFISTOSYNAGMA",
   "1d072 BYZANTINE MUSICAL SYMBOL |GORGOSYNTHETON|ARGOSYNTHETON|ETERON ARGOSYNTHETON",
   "1d075 BYZANTINE MUSICAL SYMBOL |OYRANISMA NEO|THEMATISMOS ESO|THEMATISMOS EXO|THEMA APLOUN",
   "1d079 BYZANTINE MUSICAL SYMBOL |THES KAI APOTHES|KATAVASMA|ENDOFONON|YFEN KATO",
   "1d07d BYZANTINE MUSICAL SYMBOL |YFEN ANO|STAVROS|KLASMA ANO|DIPLI ARCHAION|KRATIMA ARCHAION",
   "1d082 BYZANTINE MUSICAL SYMBOL |KRATIMA ALLO|KRATIMA NEO|APODERMA NEO|APLI|DIPLI",
   "1d087 BYZANTINE MUSICAL SYMBOL |TRIPLI|TETRAPLI|KORONIS|LEIMMA ENOS CHRONOU|LEIMMA DYO CHRONON",
   "1d08c BYZANTINE MUSICAL SYMBOL LEIMMA |TRION CHRONON|TESSARON CHRONON|IMISEOS CHRONOU",
   "1d08f BYZANTINE MUSICAL SYMBOL GORGON |NEO ANO|PARESTIGMENON ARISTERA|PARESTIGMENON DEXIA",
   "1d092 |BYZANTINE MUSICAL SYMBOL DIGORGON",
   "1d093 BYZANTINE MUSICAL SYMBOL DIGORGON PARESTIGMENON |ARISTERA KATO|ARISTERA ANO|DEXIA",
   "1d096 BYZANTINE MUSICAL SYMBOL |TRIGORGON|ARGON|IMIDIARGON|DIARGON|AGOGI POLI ARGI",
   "1d09b BYZANTINE MUSICAL SYMBOL AGOGI |ARGOTERI|ARGI|METRIA|MESI|GORGI|GORGOTERI|POLI GORGI",
   "1d0a2 BYZANTINE MUSICAL SYMBOL MARTYRIA |PROTOS ICHOS|ALLI PROTOS ICHOS|DEYTEROS ICHOS",
   "1d0a5 BYZANTINE MUSICAL SYMBOL MARTYRIA |ALLI DEYTEROS ICHOS|TRITOS ICHOS|TRIFONIAS",
   "1d0a8 BYZANTINE MUSICAL SYMBOL MARTYRIA TETARTOS |ICHOS|LEGETOS ICHOS",
   "1d0aa BYZANTINE MUSICAL SYMBOL MARTYRIA |LEGETOS ICHOS|PLAGIOS ICHOS",
   "1d0ac BYZANTINE MUSICAL SYMBOL |ISAKIA TELOUS ICHIMATOS|APOSTROFOI TELOUS ICHIMATOS",
   "1d0ae BYZANTINE MUSICAL SYMBOL FANEROSIS |TETRAFONIAS|MONOFONIAS|DIFONIAS",
   "1d0b1 BYZANTINE MUSICAL SYMBOL MARTYRIA |VARYS ICHOS|PROTOVARYS ICHOS|PLAGIOS TETARTOS ICHOS",
   "1d0b4 BYZANTINE MUSICAL SYMBOL GORTHMIKON N |APLOUN|DIPLOUN",
   "1d0b6 BYZANTINE MUSICAL SYMBOL |ENARXIS KAI FTHORA VOU|IMIFONON|IMIFTHORON",
   "1d0b9 BYZANTINE MUSICAL SYMBOL FTHORA |ARCHAION DEYTEROU ICHOU|DIATONIKI PA|DIATONIKI NANA",
   "1d0bc BYZANTINE MUSICAL SYMBOL FTHORA |NAOS ICHOS|DIATONIKI DI|SKLIRON DIATONON DI",
   "1d0bf BYZANTINE MUSICAL SYMBOL FTHORA DIATONIKI |KE|ZO|NI KATO|NI ANO",
   "1d0c3 BYZANTINE MUSICAL SYMBOL FTHORA MALAKON CHROMA |DIFONIAS|MONOFONIAS",
   "1d0c5 BYZANTINE MUSICAL SYMBOL |FHTORA SKLIRON CHROMA VASIS|FTHORA SKLIRON CHROMA SYNAFI",
   "1d0c7 BYZANTINE MUSICAL SYMBOL |FTHORA NENANO|CHROA ZYGOS|CHROA KLITON|CHROA SPATHI",
   "1d0cb BYZANTINE MUSICAL SYMBOL FTHORA |I YFESIS TETARTIMORION|ENARMONIOS ANTIFONIA",
   "1d0cd BYZANTINE MUSICAL SYMBOL |YFESIS TRITIMORION|DIESIS TRITIMORION|DIESIS TETARTIMORION",
   "1d0d0 BYZANTINE MUSICAL SYMBOL DIESIS |APLI DYO DODEKATA|MONOGRAMMOS TESSERA DODEKATA",
   "1d0d2 BYZANTINE MUSICAL SYMBOL DIESIS |DIGRAMMOS EX DODEKATA|TRIGRAMMOS OKTO DODEKATA",
   "1d0d4 BYZANTINE MUSICAL SYMBOL YFESIS |APLI DYO DODEKATA|MONOGRAMMOS TESSERA DODEKATA",
   "1d0d6 BYZANTINE MUSICAL SYMBOL YFESIS |DIGRAMMOS EX DODEKATA|TRIGRAMMOS OKTO DODEKATA",
   "1d0d8 BYZANTINE MUSICAL SYMBOL GENIKI |DIESIS|YFESIS",
   "1d0da BYZANTINE MUSICAL SYMBOL DIASTOLI |APLI MIKRI|APLI MEGALI|DIPLI|THESEOS",
   "1d0de BYZANTINE MUSICAL SYMBOL SIMANSIS |THESEOS|THESEOS DISIMOU",
   "1d0e0 BYZANTINE MUSICAL SYMBOL SIMANSIS |THESEOS TRISIMOU|THESEOS TETRASIMOU|ARSEOS",
   "1d0e3 BYZANTINE MUSICAL SYMBOL SIMANSIS ARSEOS |DISIMOU|TRISIMOU|TETRASIMOU",
   "1d0e6 BYZANTINE MUSICAL SYMBOL |DIGRAMMA GG|DIFTOGGOS OU|STIGMA",
   "1d0e9 BYZANTINE MUSICAL SYMBOL ARKTIKO |PA|VOU|GA|DI|KE|ZO|NI",
   "1d0f0 BYZANTINE MUSICAL SYMBOL |KENTIMATA NEO MESO|KENTIMA NEO MESO|KENTIMATA NEO KATO",
   "1d0f3 BYZANTINE MUSICAL SYMBOL |KENTIMA NEO KATO|KLASMA KATO|GORGON NEO KATO",
   "1d100 MUSICAL SYMBOL |SINGLE BARLINE|DOUBLE BARLINE|FINAL BARLINE",
   "1d103 MUSICAL SYMBOL |REVERSE FINAL BARLINE|DASHED BARLINE|SHORT BARLINE|LEFT REPEAT SIGN",
   "1d107 MUSICAL SYMBOL |RIGHT REPEAT SIGN|REPEAT DOTS|DAL SEGNO|DA CAPO|SEGNO|CODA",
   "1d10d MUSICAL SYMBOL REPEATED FIGURE-|1|2|3",
   "1d110 MUSICAL SYMBOL |FERMATA|FERMATA BELOW|BREATH MARK|CAESURA|BRACE|BRACKET|ONE-LINE STAFF",
   "1d117 MUSICAL SYMBOL |TWO-LINE STAFF|THREE-LINE STAFF|FOUR-LINE STAFF|FIVE-LINE STAFF",
   "1d11b MUSICAL SYMBOL |SIX-LINE STAFF|SIX-STRING FRETBOARD|FOUR-STRING FRETBOARD",
   "1d11e MUSICAL SYMBOL |G CLEF|G CLEF OTTAVA ALTA|G CLEF OTTAVA BASSA|C CLEF",
   "1d122 MUSICAL SYMBOL |F CLEF|F CLEF OTTAVA ALTA|F CLEF OTTAVA BASSA|DRUM CLEF-1|DRUM CLEF-2",
   "1d129 MUSICAL SYMBOL |MULTIPLE MEASURE REST|DOUBLE SHARP|DOUBLE FLAT|FLAT UP",
   "1d12d MUSICAL SYMBOL |FLAT DOWN|NATURAL UP|NATURAL DOWN|SHARP UP|SHARP DOWN|QUARTER TONE SHARP",
   "1d133 MUSICAL SYMBOL |QUARTER TONE FLAT|COMMON TIME|CUT TIME|OTTAVA ALTA|OTTAVA BASSA",
   "1d138 MUSICAL SYMBOL QUINDICESIMA |ALTA|BASSA",
   "1d13a MUSICAL SYMBOL |MULTI REST|WHOLE REST|HALF REST|QUARTER REST|EIGHTH REST|SIXTEENTH REST",
   "1d140 MUSICAL SYMBOL |THIRTY-SECOND REST|SIXTY-FOURTH REST|ONE HUNDRED TWENTY-EIGHTH REST",
   "1d143 MUSICAL SYMBOL |X NOTEHEAD|PLUS NOTEHEAD|CIRCLE X NOTEHEAD",
   "1d146 MUSICAL SYMBOL SQUARE NOTEHEAD |WHITE|BLACK",
   "1d148 MUSICAL SYMBOL TRIANGLE NOTEHEAD |UP WHITE|UP BLACK|LEFT WHITE|LEFT BLACK|RIGHT WHITE",
   "1d14d MUSICAL SYMBOL TRIANGLE NOTEHEAD |RIGHT BLACK|DOWN WHITE|DOWN BLACK|UP RIGHT WHITE",
   "1d151 MUSICAL SYMBOL |TRIANGLE NOTEHEAD UP RIGHT BLACK|MOON NOTEHEAD WHITE|MOON NOTEHEAD BLACK",
   "1d154 MUSICAL SYMBOL TRIANGLE-ROUND NOTEHEAD DOWN |WHITE|BLACK",
   "1d156 MUSICAL SYMBOL |PARENTHESIS NOTEHEAD|VOID NOTEHEAD|NOTEHEAD BLACK|NULL NOTEHEAD",
   "1d15a MUSICAL SYMBOL CLUSTER NOTEHEAD |WHITE|BLACK",
   "1d15c MUSICAL SYMBOL |BREVE|WHOLE NOTE|HALF NOTE|QUARTER NOTE|EIGHTH NOTE|SIXTEENTH NOTE",
   "1d162 MUSICAL SYMBOL |THIRTY-SECOND NOTE|SIXTY-FOURTH NOTE|ONE HUNDRED TWENTY-EIGHTH NOTE",
   "1d165 MUSICAL SYMBOL COMBINING |STEM|SPRECHGESANG STEM|TREMOLO-1|TREMOLO-2|TREMOLO-3",
   "1d16a MUSICAL SYMBOL FINGERED TREMOLO-|1|2|3",
   "1d16d MUSICAL SYMBOL COMBINING |AUGMENTATION DOT|FLAG-1|FLAG-2|FLAG-3|FLAG-4|FLAG-5",
   "1d173 MUSICAL SYMBOL |BEGIN BEAM|END BEAM|BEGIN TIE|END TIE|BEGIN SLUR|END SLUR|BEGIN PHRASE",
   "1d17a MUSICAL SYMBOL |END PHRASE|COMBINING ACCENT|COMBINING STACCATO|COMBINING TENUTO",
   "1d17e MUSICAL SYMBOL COMBINING |STACCATISSIMO|MARCATO|MARCATO-STACCATO|ACCENT-STACCATO|LOURE",
   "1d183 MUSICAL SYMBOL ARPEGGIATO |UP|DOWN",
   "1d185 MUSICAL SYMBOL COMBINING |DOIT|RIP|FLIP|SMEAR|BEND|DOUBLE TONGUE|TRIPLE TONGUE",
   "1d18c MUSICAL SYMBOL |RINFORZANDO|SUBITO|Z|PIANO|MEZZO|FORTE|CRESCENDO|DECRESCENDO",
   "1d194 MUSICAL SYMBOL GRACE NOTE |SLASH|NO SLASH",
   "1d196 MUSICAL SYMBOL |TR|TURN|INVERTED TURN|TURN SLASH|TURN UP",
   "1d19b MUSICAL SYMBOL ORNAMENT STROKE-|1|2|3|4|5|6|7|8|9|10|11",
   "1d1a6 MUSICAL SYMBOL |HAUPTSTIMME|NEBENSTIMME|END OF STIMME|DEGREE SLASH",
   "1d1aa MUSICAL SYMBOL COMBINING |DOWN BOW|UP BOW|HARMONIC|SNAP PIZZICATO",
   "1d1ae MUSICAL SYMBOL PEDAL |MARK|UP MARK",
   "1d1b0 MUSICAL SYMBOL |HALF PEDAL MARK|GLISSANDO UP|GLISSANDO DOWN|WITH FINGERNAILS|DAMP",
   "1d1b5 MUSICAL SYMBOL |DAMP ALL|MAXIMA|LONGA|BREVIS|SEMIBREVIS WHITE|SEMIBREVIS BLACK|MINIMA",
   "1d1bc MUSICAL SYMBOL |MINIMA BLACK|SEMIMINIMA WHITE|SEMIMINIMA BLACK|FUSA WHITE|FUSA BLACK",
   "1d1c1 MUSICAL SYMBOL |LONGA PERFECTA REST|LONGA IMPERFECTA REST|BREVIS REST|SEMIBREVIS REST",
   "1d1c5 MUSICAL SYMBOL |MINIMA REST|SEMIMINIMA REST|TEMPUS PERFECTUM CUM PROLATIONE PERFECTA",
   "1d1c8 MUSICAL SYMBOL TEMPUS PERFECTUM CUM PROLATIONE |IMPERFECTA|PERFECTA DIMINUTION-1",
   "1d1ca MUSICAL SYMBOL TEMPUS IMPERFECTUM CUM PROLATIONE |PERFECTA|IMPERFECTA",
   "1d1cc MUSICAL SYMBOL TEMPUS IMPERFECTUM CUM PROLATIONE IMPERFECTA DIMINUTION-|1|2|3",
   "1d1cf MUSICAL SYMBOL |CROIX|GREGORIAN C CLEF|GREGORIAN F CLEF|SQUARE B|VIRGA",
   "1d1d4 MUSICAL SYMBOL |PODATUS|CLIVIS|SCANDICUS|CLIMACUS|TORCULUS|PORRECTUS|PORRECTUS FLEXUS",
   "1d1db MUSICAL SYMBOL |SCANDICUS FLEXUS|TORCULUS RESUPINUS|PES SUBPUNCTIS|KIEVAN C CLEF",
   "1d1df MUSICAL SYMBOL KIEVAN |END OF PIECE|FINAL NOTE|RECITATIVE MARK|WHOLE NOTE|HALF NOTE",
   "1d1e4 MUSICAL SYMBOL KIEVAN |QUARTER NOTE STEM DOWN|QUARTER NOTE STEM UP|EIGHTH NOTE STEM DOWN",
   "1d1e7 MUSICAL SYMBOL |KIEVAN EIGHTH NOTE STEM UP|KIEVAN FLAT SIGN|SORI|KORON",
   "1d200 GREEK VOCAL NOTATION SYMBOL-|1|2|3|4|5|6|7|8|9",
   "1d209 GREEK VOCAL NOTATION SYMBOL-|10|11|12|13|14|15|16|17|18|19|20|21|22|23|24|50|51|52|53|54",
   "1d21d GREEK INSTRUMENTAL NOTATION SYMBOL-|1|2|4|5|7|8|11|12|13|14|17|18",
   "1d229 GREEK INSTRUMENTAL NOTATION SYMBOL-|19|23|24|25|26|27|29|30|32|36|37|38|39|40|42|43",
   "1d239 GREEK INSTRUMENTAL NOTATION SYMBOL-|45|47|48|49|50|51|52|53|54",
   "1d242 COMBINING GREEK MUSICAL |TRISEME|TETRASEME|PENTASEME",
   "1d245 |GREEK MUSICAL LEIMMA",
   "1d2e0 MAYAN NUMERAL |ZERO|ONE|TWO|THREE|FOUR|FIVE|SIX|SEVEN|EIGHT|NINE|TEN|ELEVEN",
   "1d2ec MAYAN NUMERAL |TWELVE|THIRTEEN|FOURTEEN|FIFTEEN|SIXTEEN|SEVENTEEN|EIGHTEEN|NINETEEN",
   "1d300 |MONOGRAM FOR EARTH",
   "1d301 DIGRAM FOR |HEAVENLY EARTH|HUMAN EARTH|EARTHLY HEAVEN|EARTHLY HUMAN|EARTH",
   "1d306 TETRAGRAM FOR |CENTRE|FULL CIRCLE|MIRED|BARRIER|KEEPING SMALL|CONTRARIETY",
   "1d30c TETRAGRAM FOR |ASCENT|OPPOSITION|BRANCHING OUT|DEFECTIVENESS OR DISTORTION|DIVERGENCE",
   "1d311 TETRAGRAM FOR |YOUTHFULNESS|INCREASE|PENETRATION|REACH|CONTACT|HOLDING BACK|WAITING",
   "1d318 TETRAGRAM FOR |FOLLOWING|ADVANCE|RELEASE|RESISTANCE|EASE|JOY|CONTENTION|ENDEAVOUR",
   "1d320 TETRAGRAM FOR |DUTIES|CHANGE|DECISIVENESS|BOLD RESOLUTION|PACKING|LEGION|CLOSENESS",
   "1d327 TETRAGRAM FOR |KINSHIP|GATHERING|STRENGTH|PURITY|FULLNESS|RESIDENCE|LAW OR MODEL",
   "1d32e TETRAGRAM FOR |RESPONSE|GOING TO MEET|ENCOUNTERS|STOVE|GREATNESS|ENLARGEMENT|PATTERN",
   "1d335 TETRAGRAM FOR |RITUAL|FLIGHT|VASTNESS OR WASTING|CONSTANCY|MEASURE",
   "1d33a TETRAGRAM FOR |ETERNITY|UNITY|DIMINISHMENT|CLOSED MOUTH|GUARDEDNESS|GATHERING IN|MASSING",
   "1d341 TETRAGRAM FOR |ACCUMULATION|EMBELLISHMENT|DOUBT|WATCH|SINKING|INNER|DEPARTURE|DARKENING",
   "1d349 TETRAGRAM FOR |DIMMING|EXHAUSTION|SEVERANCE|STOPPAGE|HARDNESS|COMPLETION|CLOSURE|FAILURE",
   "1d351 TETRAGRAM FOR |AGGRAVATION|COMPLIANCE|ON THE VERGE|DIFFICULTIES|LABOURING|FOSTERING",
   "1d360 COUNTING ROD UNIT DIGIT |ONE|TWO|THREE|FOUR|FIVE|SIX|SEVEN|EIGHT|NINE",
   "1d369 COUNTING ROD TENS DIGIT |ONE|TWO|THREE|FOUR|FIVE|SIX|SEVEN|EIGHT|NINE",
   "1d372 IDEOGRAPHIC TALLY MARK |ONE|TWO|THREE|FOUR|FIVE",
   "1d377 TALLY MARK |ONE|FIVE",
   "1d400 MATHEMATICAL BOLD CAPITAL |A|B|C|D|E|F|G|H|I|J|K|L|M|N|O|P|Q|R|S|T|U|V|W|X|Y|Z",
   "1d41a MATHEMATICAL BOLD SMALL |A|B|C|D|E|F|G|H|I|J|K|L|M|N|O|P|Q|R|S|T|U|V|W|X|Y|Z",
   "1d434 MATHEMATICAL ITALIC CAPITAL |A|B|C|D|E|F|G|H|I|J|K|L|M|N|O|P|Q|R|S|T|U|V|W|X|Y|Z",
   "1d44e MATHEMATICAL ITALIC SMALL |A|B|C|D|E|F|G",
   "1d456 MATHEMATICAL ITALIC SMALL |I|J|K|L|M|N|O|P|Q|R|S|T|U|V|W|X|Y|Z",
   "1d468 MATHEMATICAL BOLD ITALIC CAPITAL |A|B|C|D|E|F|G|H|I|J|K|L|M|N|O|P|Q|R|S|T|U|V|W|X|Y|Z",
   "1d482 MATHEMATICAL BOLD ITALIC SMALL |A|B|C|D|E|F|G|H|I|J|K|L|M|N|O|P|Q|R|S|T|U|V|W|X|Y|Z",
   "1d49c |MATHEMATICAL SCRIPT CAPITAL A",
   "1d49e MATHEMATICAL SCRIPT CAPITAL |C|D",
   "1d4a2 |MATHEMATICAL SCRIPT CAPITAL G",
   "1d4a5 MATHEMATICAL SCRIPT CAPITAL |J|K",
   "1d4a9 MATHEMATICAL SCRIPT CAPITAL |N|O|P|Q",
   "1d4ae MATHEMATICAL SCRIPT CAPITAL |S|T|U|V|W|X|Y|Z",
   "1d4b6 MATHEMATICAL SCRIPT SMALL |A|B|C|D",
   "1d4bb |MATHEMATICAL SCRIPT SMALL F",
   "1d4bd MATHEMATICAL SCRIPT SMALL |H|I|J|K|L|M|N",
   "1d4c5 MATHEMATICAL SCRIPT SMALL |P|Q|R|S|T|U|V|W|X|Y|Z",
   "1d4d0 MATHEMATICAL BOLD SCRIPT CAPITAL |A|B|C|D|E|F|G|H|I|J|K|L|M|N|O|P|Q|R|S|T|U|V|W|X|Y|Z",
   "1d4ea MATHEMATICAL BOLD SCRIPT SMALL |A|B|C|D|E|F|G|H|I|J|K|L|M|N|O|P|Q|R|S|T|U|V|W|X|Y|Z",
   "1d504 MATHEMATICAL FRAKTUR CAPITAL |A|B",
   "1d507 MATHEMATICAL FRAKTUR CAPITAL |D|E|F|G",
   "1d50d MATHEMATICAL FRAKTUR CAPITAL |J|K|L|M|N|O|P|Q",
   "1d516 MATHEMATICAL FRAKTUR CAPITAL |S|T|U|V|W|X|Y",
   "1d51e MATHEMATICAL FRAKTUR SMALL |A|B|C|D|E|F|G|H|I|J|K|L|M|N|O|P|Q|R|S|T|U|V|W|X|Y|Z",
   "1d538 MATHEMATICAL DOUBLE-STRUCK CAPITAL |A|B",
   "1d53b MATHEMATICAL DOUBLE-STRUCK CAPITAL |D|E|F|G",
   "1d540 MATHEMATICAL DOUBLE-STRUCK CAPITAL |I|J|K|L|M",
   "1d546 |MATHEMATICAL DOUBLE-STRUCK CAPITAL O",
   "1d54a MATHEMATICAL DOUBLE-STRUCK CAPITAL |S|T|U|V|W|X|Y",
   "1d552 MATHEMATICAL DOUBLE-STRUCK SMALL |A|B|C|D|E|F|G|H|I|J|K|L|M|N|O|P|Q|R|S|T|U|V|W|X|Y|Z",
   "1d56c MATHEMATICAL BOLD FRAKTUR CAPITAL |A|B|C|D|E|F|G|H|I|J|K|L|M|N|O|P|Q|R|S|T|U|V|W|X|Y|Z",
   "1d586 MATHEMATICAL BOLD FRAKTUR SMALL |A|B|C|D|E|F|G|H|I|J|K|L|M|N|O|P|Q|R|S|T|U|V|W|X|Y|Z",
   "1d5a0 MATHEMATICAL SANS-SERIF CAPITAL |A|B|C|D|E|F|G|H|I|J|K|L|M|N|O|P|Q|R|S|T|U|V|W|X|Y|Z",
   "1d5ba MATHEMATICAL SANS-SERIF SMALL |A|B|C|D|E|F|G|H|I|J|K|L|M|N|O|P|Q|R|S|T|U|V|W|X|Y|Z",
   "1d5d4 MATHEMATICAL SANS-SERIF BOLD CAPITAL |A|B|C|D|E|F|G",
   "1d5db MATHEMATICAL SANS-SERIF BOLD CAPITAL |H|I|J|K|L|M|N|O|P|Q|R|S|T|U|V|W|X|Y|Z",
   "1d5ee MATHEMATICAL SANS-SERIF BOLD SMALL |A|B|C|D|E|F|G|H|I|J|K|L|M|N|O|P|Q|R|S|T|U|V|W|X|Y|Z",
   "1d608 MATHEMATICAL SANS-SERIF ITALIC CAPITAL |A|B|C|D|E|F|G|H|I|J|K|L|M|N|O|P|Q|R|S|T|U|V|W|X",
   "1d620 MATHEMATICAL SANS-SERIF ITALIC |CAPITAL Y|CAPITAL Z|SMALL A",
   "1d623 MATHEMATICAL SANS-SERIF ITALIC SMALL |B|C|D|E|F|G|H|I|J|K|L|M|N|O|P|Q|R|S|T|U|V|W|X|Y|Z",
   "1d63c MATHEMATICAL SANS-SERIF BOLD ITALIC CAPITAL |A|B|C|D",
   "1d640 MATHEMATICAL SANS-SERIF BOLD ITALIC CAPITAL |E|F|G|H|I|J|K|L|M|N|O|P|Q|R|S|T|U|V|W|X|Y|Z",
   "1d656 MATHEMATICAL SANS-SERIF BOLD ITALIC SMALL |A|B|C",
   "1d659 MATHEMATICAL SANS-SERIF BOLD ITALIC SMALL |D|E|F|G|H|I|J|K|L|M|N|O|P|Q|R|S|T|U|V|W|X|Y|Z",
   "1d670 MATHEMATICAL MONOSPACE CAPITAL |A|B|C|D|E|F|G|H|I|J|K|L|M|N|O|P|Q|R|S|T|U|V|W|X|Y|Z",
   "1d68a MATHEMATICAL MONOSPACE SMALL |A|B|C|D|E|F|G|H|I|J|K|L|M|N|O|P|Q|R|S|T|U|V|W|X|Y|Z",
   "1d6a4 MATHEMATICAL ITALIC SMALL DOTLESS |I|J",
   "1d6a8 MATHEMATICAL BOLD CAPITAL |ALPHA|BETA|GAMMA|DELTA|EPSILON|ZETA|ETA|THETA|IOTA|KAPPA",
   "1d6b2 MATHEMATICAL BOLD CAPITAL |LAMDA|MU|NU|XI|OMICRON|PI|RHO|THETA SYMBOL|SIGMA|TAU|UPSILON",
   "1d6bd MATHEMATICAL BOLD |CAPITAL PHI|CAPITAL CHI|CAPITAL PSI|CAPITAL OMEGA|NABLA|SMALL ALPHA",
   "1d6c3 MATHEMATICAL BOLD SMALL |BETA|GAMMA|DELTA|EPSILON|ZETA|ETA|THETA|IOTA|KAPPA|LAMDA|MU",
   "1d6ce MATHEMATICAL BOLD SMALL |NU|XI|OMICRON|PI|RHO|FINAL SIGMA|SIGMA|TAU|UPSILON|PHI|CHI|PSI",
   "1d6da MATHEMATICAL BOLD |SMALL OMEGA|PARTIAL DIFFERENTIAL|EPSILON SYMBOL",
   "1d6dd MATHEMATICAL BOLD |THETA SYMBOL|KAPPA SYMBOL|PHI SYMBOL|RHO SYMBOL|PI SYMBOL",
   "1d6e2 MATHEMATICAL ITALIC CAPITAL |ALPHA|BETA|GAMMA|DELTA",
   "1d6e6 MATHEMATICAL ITALIC CAPITAL |EPSILON|ZETA|ETA|THETA|IOTA|KAPPA|LAMDA|MU|NU|XI|OMICRON",
   "1d6f1 MATHEMATICAL ITALIC CAPITAL |PI|RHO|THETA SYMBOL|SIGMA|TAU|UPSILON|PHI|CHI|PSI|OMEGA",
   "1d6fb MATHEMATICAL ITALIC |NABLA|SMALL ALPHA",
   "1d6fd MATHEMATICAL ITALIC SMALL |BETA|GAMMA|DELTA|EPSILON|ZETA|ETA|THETA|IOTA|KAPPA|LAMDA",
   "1d707 MATHEMATICAL ITALIC SMALL |MU|NU|XI|OMICRON|PI|RHO|FINAL SIGMA|SIGMA|TAU|UPSILON|PHI|CHI",
   "1d713 MATHEMATICAL ITALIC |SMALL PSI|SMALL OMEGA|PARTIAL DIFFERENTIAL|EPSILON SYMBOL",
   "1d717 MATHEMATICAL ITALIC |THETA SYMBOL|KAPPA SYMBOL|PHI SYMBOL|RHO SYMBOL|PI SYMBOL",
   "1d71c MATHEMATICAL BOLD ITALIC CAPITAL |ALPHA|BETA|GAMMA|DELTA|EPSILON|ZETA",
   "1d722 MATHEMATICAL BOLD ITALIC CAPITAL |ETA|THETA|IOTA|KAPPA|LAMDA|MU|NU|XI|OMICRON|PI",
   "1d72c MATHEMATICAL BOLD ITALIC CAPITAL |RHO|THETA SYMBOL|SIGMA|TAU|UPSILON|PHI|CHI|PSI|OMEGA",
   "1d735 MATHEMATICAL BOLD ITALIC |NABLA|SMALL ALPHA|SMALL BETA|SMALL GAMMA",
   "1d739 MATHEMATICAL BOLD ITALIC SMALL |DELTA|EPSILON|ZETA|ETA|THETA|IOTA|KAPPA|LAMDA|MU|NU|XI",
   "1d744 MATHEMATICAL BOLD ITALIC SMALL |OMICRON|PI|RHO|FINAL SIGMA|SIGMA|TAU|UPSILON|PHI|CHI|PSI",
   "1d74e MATHEMATICAL BOLD ITALIC |SMALL OMEGA|PARTIAL DIFFERENTIAL|EPSILON SYMBOL",
   "1d751 MATHEMATICAL BOLD ITALIC |THETA SYMBOL|KAPPA SYMBOL|PHI SYMBOL|RHO SYMBOL|PI SYMBOL",
   "1d756 MATHEMATICAL SANS-SERIF BOLD CAPITAL |ALPHA|BETA|GAMMA|DELTA|EPSILON|ZETA|ETA",
   "1d75d MATHEMATICAL SANS-SERIF BOLD CAPITAL |THETA|IOTA|KAPPA|LAMDA|MU|NU|XI|OMICRON|PI|RHO",
   "1d767 MATHEMATICAL SANS-SERIF BOLD CAPITAL |THETA SYMBOL|SIGMA|TAU|UPSILON|PHI|CHI|PSI|OMEGA",
   "1d76f MATHEMATICAL SANS-SERIF BOLD |NABLA|SMALL ALPHA|SMALL BETA|SMALL GAMMA|SMALL DELTA",
   "1d774 MATHEMATICAL SANS-SERIF BOLD SMALL |EPSILON|ZETA|ETA|THETA|IOTA|KAPPA|LAMDA|MU|NU|XI",
   "1d77e MATHEMATICAL SANS-SERIF BOLD SMALL |OMICRON|PI|RHO|FINAL SIGMA|SIGMA|TAU|UPSILON|PHI|CHI",
   "1d787 MATHEMATICAL SANS-SERIF BOLD |SMALL PSI|SMALL OMEGA|PARTIAL DIFFERENTIAL|EPSILON SYMBOL",
   "1d78b MATHEMATICAL SANS-SERIF BOLD |THETA SYMBOL|KAPPA SYMBOL|PHI SYMBOL|RHO SYMBOL|PI SYMBOL",
   "1d790 MATHEMATICAL SANS-SERIF BOLD ITALIC CAPITAL |ALPHA|BETA|GAMMA|DELTA|EPSILON|ZETA|ETA",
   "1d797 MATHEMATICAL SANS-SERIF BOLD ITALIC CAPITAL |THETA|IOTA|KAPPA|LAMDA|MU|NU|XI|OMICRON|PI",
   "1d7a0 MATHEMATICAL SANS-SERIF BOLD ITALIC CAPITAL |RHO|THETA SYMBOL|SIGMA|TAU|UPSILON|PHI|CHI",
   "1d7a7 MATHEMATICAL SANS-SERIF BOLD ITALIC |CAPITAL PSI|CAPITAL OMEGA|NABLA",
   "1d7aa MATHEMATICAL SANS-SERIF BOLD ITALIC SMALL |ALPHA|BETA|GAMMA|DELTA|EPSILON|ZETA|ETA",
   "1d7b1 MATHEMATICAL SANS-SERIF BOLD ITALIC SMALL |THETA|IOTA|KAPPA|LAMDA|MU|NU|XI|OMICRON|PI",
   "1d7ba MATHEMATICAL SANS-SERIF BOLD ITALIC SMALL |RHO|FINAL SIGMA|SIGMA|TAU|UPSILON|PHI|CHI|PSI",
   "1d7c2 MATHEMATICAL SANS-SERIF BOLD ITALIC |SMALL OMEGA|PARTIAL DIFFERENTIAL|EPSILON SYMBOL",
   "1d7c5 MATHEMATICAL SANS-SERIF BOLD ITALIC |THETA SYMBOL|KAPPA SYMBOL|PHI SYMBOL|RHO SYMBOL",
   "1d7c9 MATHEMATICAL |SANS-SERIF BOLD ITALIC PI SYMBOL|BOLD CAPITAL DIGAMMA|BOLD SMALL DIGAMMA",
   "1d7ce MATHEMATICAL BOLD DIGIT |ZERO|ONE|TWO|THREE|FOUR|FIVE|SIX|SEVEN|EIGHT|NINE",
   "1d7d8 MATHEMATICAL DOUBLE-STRUCK DIGIT |ZERO|ONE|TWO|THREE|FOUR|FIVE|SIX|SEVEN|EIGHT|NINE",
   "1d7e2 MATHEMATICAL SANS-SERIF DIGIT |ZERO|ONE|TWO|THREE|FOUR|FIVE|SIX|SEVEN|EIGHT|NINE",
   "1d7ec MATHEMATICAL SANS-SERIF BOLD DIGIT |ZERO|ONE|TWO|THREE|FOUR|FIVE|SIX|SEVEN|EIGHT|NINE",
   "1d7f6 MATHEMATICAL MONOSPACE DIGIT |ZERO|ONE|TWO|THREE|FOUR|FIVE|SIX|SEVEN|EIGHT|NINE",
   "1d800 SIGNWRITING HAND-|FIST INDEX|CIRCLE INDEX|CUP INDEX|OVAL INDEX|HINGE INDEX|ANGLE INDEX",
   "1d806 SIGNWRITING HAND-|FIST INDEX BENT|CIRCLE INDEX BENT|FIST THUMB UNDER INDEX BENT",
   "1d809 SIGNWRITING HAND-FIST INDEX |RAISED KNUCKLE|CUPPED|HINGED|HINGED LOW",
   "1d80d SIGNWRITING HAND-|CIRCLE INDEX HINGE|FIST INDEX MIDDLE|CIRCLE INDEX MIDDLE",
   "1d810 SIGNWRITING HAND-FIST INDEX MIDDLE |BENT|RAISED KNUCKLES|HINGED",
   "1d813 SIGNWRITING HAND-FIST INDEX |UP MIDDLE HINGED|HINGED MIDDLE UP|MIDDLE CONJOINED",
   "1d816 SIGNWRITING HAND-FIST INDEX MIDDLE CONJOINED |INDEX BENT|MIDDLE BENT|CUPPED|HINGED",
   "1d81a SIGNWRITING HAND-|FIST INDEX MIDDLE CROSSED|CIRCLE INDEX MIDDLE CROSSED",
   "1d81c SIGNWRITING HAND-FIST |MIDDLE BENT OVER INDEX|INDEX BENT OVER MIDDLE|INDEX MIDDLE THUMB",
   "1d81f |SIGNWRITING HAND-CIRCLE INDEX MIDDLE THUMB",
   "1d820 SIGNWRITING HAND-FIST INDEX MIDDLE |STRAIGHT THUMB BENT|BENT THUMB STRAIGHT",
   "1d822 SIGNWRITING HAND-FIST INDEX MIDDLE |THUMB BENT|HINGED SPREAD THUMB SIDE",
   "1d824 SIGNWRITING HAND-FIST INDEX UP MIDDLE HINGED THUMB |SIDE|CONJOINED",
   "1d826 SIGNWRITING HAND-FIST INDEX |HINGED MIDDLE UP THUMB SIDE|MIDDLE UP SPREAD THUMB FORWARD",
   "1d828 SIGNWRITING HAND-FIST INDEX MIDDLE THUMB |CUPPED|CIRCLED|HOOKED|HINGED",
   "1d82c |SIGNWRITING HAND-FIST THUMB BETWEEN INDEX MIDDLE STRAIGHT",
   "1d82d SIGNWRITING HAND-FIST INDEX MIDDLE CONJOINED THUMB |SIDE|SIDE CONJOINED|SIDE BENT",
   "1d830 SIGNWRITING HAND-FIST |MIDDLE THUMB HOOKED INDEX UP|INDEX THUMB HOOKED MIDDLE UP",
   "1d832 SIGNWRITING HAND-FIST INDEX MIDDLE |CONJOINED HINGED THUMB SIDE|CROSSED THUMB SIDE",
   "1d834 SIGNWRITING HAND-FIST INDEX MIDDLE CONJOINED |THUMB FORWARD|CUPPED THUMB FORWARD",
   "1d836 SIGNWRITING HAND-FIST |MIDDLE THUMB CUPPED INDEX UP|INDEX THUMB CUPPED MIDDLE UP",
   "1d838 SIGNWRITING HAND-FIST MIDDLE THUMB CIRCLED INDEX |UP|HINGED",
   "1d83a SIGNWRITING HAND-FIST INDEX THUMB ANGLED |OUT MIDDLE UP|IN MIDDLE UP",
   "1d83c |SIGNWRITING HAND-FIST INDEX THUMB CIRCLED MIDDLE UP",
   "1d83d SIGNWRITING HAND-FIST INDEX MIDDLE THUMB |CONJOINED HINGED|ANGLED OUT|ANGLED",
   "1d840 SIGNWRITING HAND-FIST MIDDLE THUMB ANGLED |OUT INDEX UP|OUT INDEX CROSSED|INDEX UP",
   "1d843 SIGNWRITING HAND-|FIST INDEX THUMB HOOKED MIDDLE HINGED|FLAT FOUR FINGERS",
   "1d845 SIGNWRITING HAND-FLAT FOUR FINGERS |BENT|HINGED|CONJOINED|CONJOINED SPLIT",
   "1d849 SIGNWRITING HAND-|CLAW FOUR FINGERS CONJOINED|FIST FOUR FINGERS CONJOINED BENT",
   "1d84b SIGNWRITING HAND-|HINGE FOUR FINGERS CONJOINED|FLAT FIVE FINGERS SPREAD",
   "1d84d SIGNWRITING HAND-FLAT |HEEL FIVE FINGERS SPREAD|FIVE FINGERS SPREAD FOUR BENT",
   "1d84f SIGNWRITING HAND-FLAT |HEEL FIVE FINGERS SPREAD FOUR BENT|FIVE FINGERS SPREAD BENT",
   "1d851 SIGNWRITING HAND-FLAT |HEEL FIVE FINGERS SPREAD BENT|FIVE FINGERS SPREAD THUMB FORWARD",
   "1d853 SIGNWRITING HAND-CUP FIVE FINGERS |SPREAD|SPREAD OPEN",
   "1d855 SIGNWRITING HAND-|HINGE FIVE FINGERS SPREAD OPEN|OVAL FIVE FINGERS SPREAD",
   "1d857 SIGNWRITING HAND-FLAT FIVE FINGERS SPREAD |HINGED|HINGED THUMB SIDE|HINGED NO THUMB",
   "1d85a SIGNWRITING HAND-|FLAT|FLAT BETWEEN PALM FACINGS|FLAT HEEL|FLAT THUMB SIDE",
   "1d85e SIGNWRITING HAND-FLAT |HEEL THUMB SIDE|THUMB BENT|THUMB FORWARD|SPLIT INDEX THUMB SIDE",
   "1d862 SIGNWRITING HAND-FLAT SPLIT |CENTRE|CENTRE THUMB SIDE|CENTRE THUMB SIDE BENT|LITTLE",
   "1d866 SIGNWRITING HAND-|CLAW|CLAW THUMB SIDE|CLAW NO THUMB",
   "1d869 SIGNWRITING HAND-|CLAW THUMB FORWARD|HOOK CURLICUE|HOOK|CUP OPEN|CUP|CUP OPEN THUMB SIDE",
   "1d86f SIGNWRITING HAND-CUP |THUMB SIDE|OPEN NO THUMB|NO THUMB|OPEN THUMB FORWARD|THUMB FORWARD",
   "1d874 SIGNWRITING HAND-|CURLICUE OPEN|CURLICUE|CIRCLE|OVAL|OVAL THUMB SIDE|OVAL NO THUMB",
   "1d87a SIGNWRITING HAND-|OVAL THUMB FORWARD|HINGE OPEN|HINGE OPEN THUMB FORWARD|HINGE",
   "1d87e SIGNWRITING HAND-HINGE |SMALL|OPEN THUMB SIDE|THUMB SIDE|OPEN NO THUMB|NO THUMB",
   "1d883 SIGNWRITING HAND-HINGE THUMB |SIDE TOUCHING INDEX|BETWEEN MIDDLE RING",
   "1d885 SIGNWRITING HAND-|ANGLE|FIST INDEX MIDDLE RING|CIRCLE INDEX MIDDLE RING",
   "1d888 SIGNWRITING HAND-|HINGE INDEX MIDDLE RING|ANGLE INDEX MIDDLE RING|HINGE LITTLE",
   "1d88b SIGNWRITING HAND-FIST INDEX MIDDLE RING |BENT|CONJOINED",
   "1d88d SIGNWRITING HAND-|HINGE INDEX MIDDLE RING CONJOINED|FIST LITTLE DOWN",
   "1d88f SIGNWRITING HAND-FIST LITTLE DOWN |RIPPLE STRAIGHT|RIPPLE CURVED|OTHERS CIRCLED",
   "1d892 SIGNWRITING HAND-FIST |LITTLE UP|THUMB UNDER LITTLE UP",
   "1d894 SIGNWRITING HAND-|CIRCLE LITTLE UP|OVAL LITTLE UP|ANGLE LITTLE UP",
   "1d897 SIGNWRITING HAND-FIST LITTLE |RAISED KNUCKLE|BENT|TOUCHES THUMB|THUMB",
   "1d89b SIGNWRITING HAND-|HINGE LITTLE THUMB|FIST LITTLE INDEX THUMB|HINGE LITTLE INDEX THUMB",
   "1d89e SIGNWRITING HAND-ANGLE LITTLE INDEX THUMB INDEX |THUMB OUT|THUMB",
   "1d8a0 SIGNWRITING HAND-|FIST LITTLE INDEX|CIRCLE LITTLE INDEX|HINGE LITTLE INDEX",
   "1d8a3 SIGNWRITING HAND-|ANGLE LITTLE INDEX|FIST INDEX MIDDLE LITTLE|CIRCLE INDEX MIDDLE LITTLE",
   "1d8a6 SIGNWRITING HAND-|HINGE INDEX MIDDLE LITTLE|HINGE RING|ANGLE INDEX MIDDLE LITTLE",
   "1d8a9 SIGNWRITING HAND-|FIST INDEX MIDDLE CROSS LITTLE|CIRCLE INDEX MIDDLE CROSS LITTLE",
   "1d8ab SIGNWRITING HAND-|FIST RING DOWN|HINGE RING DOWN INDEX THUMB HOOK MIDDLE",
   "1d8ad |SIGNWRITING HAND-ANGLE RING DOWN MIDDLE THUMB INDEX CROSS",
   "1d8ae SIGNWRITING HAND-FIST RING |UP|RAISED KNUCKLE|LITTLE",
   "1d8b1 SIGNWRITING HAND-|CIRCLE RING LITTLE|OVAL RING LITTLE|ANGLE RING LITTLE",
   "1d8b4 SIGNWRITING HAND-FIST RING |MIDDLE|MIDDLE CONJOINED|MIDDLE RAISED KNUCKLES|INDEX|THUMB",
   "1d8b9 SIGNWRITING HAND-|HOOK RING THUMB|FIST INDEX RING LITTLE",
   "1d8bb SIGNWRITING HAND-|CIRCLE INDEX RING LITTLE|CURLICUE INDEX RING LITTLE ON",
   "1d8bd SIGNWRITING HAND-HOOK INDEX RING LITTLE |OUT|IN|UNDER",
   "1d8c0 SIGNWRITING HAND-|CUP INDEX RING LITTLE|HINGE INDEX RING LITTLE",
   "1d8c2 SIGNWRITING HAND-ANGLE INDEX RING |LITTLE OUT|LITTLE",
   "1d8c4 SIGNWRITING HAND-|FIST MIDDLE DOWN|HINGE MIDDLE|FIST MIDDLE UP|CIRCLE MIDDLE UP",
   "1d8c8 SIGNWRITING HAND-|FIST MIDDLE RAISED KNUCKLE|FIST MIDDLE UP THUMB SIDE|HOOK MIDDLE THUMB",
   "1d8cb SIGNWRITING HAND-FIST MIDDLE |THUMB LITTLE|LITTLE|RING LITTLE",
   "1d8ce SIGNWRITING HAND-|CIRCLE MIDDLE RING LITTLE|CURLICUE MIDDLE RING LITTLE ON",
   "1d8d0 SIGNWRITING HAND-|CUP MIDDLE RING LITTLE|HINGE MIDDLE RING LITTLE",
   "1d8d2 SIGNWRITING HAND-ANGLE MIDDLE RING |LITTLE OUT|LITTLE IN|LITTLE",
   "1d8d5 |SIGNWRITING HAND-CIRCLE MIDDLE RING LITTLE BENT",
   "1d8d6 SIGNWRITING HAND-CLAW MIDDLE RING LITTLE |CONJOINED|CONJOINED SIDE",
   "1d8d8 SIGNWRITING HAND-HOOK MIDDLE RING LITTLE |CONJOINED OUT|CONJOINED IN|CONJOINED",
   "1d8db SIGNWRITING HAND-|HINGE INDEX HINGED|FIST INDEX THUMB SIDE|HINGE INDEX THUMB SIDE",
   "1d8de SIGNWRITING HAND-FIST INDEX THUMB SIDE THUMB |DIAGONAL|CONJOINED|BENT",
   "1d8e1 SIGNWRITING HAND-FIST INDEX THUMB SIDE |INDEX BENT|BOTH BENT|INDEX HINGE",
   "1d8e4 SIGNWRITING HAND-FIST INDEX THUMB FORWARD INDEX |STRAIGHT|BENT",
   "1d8e6 SIGNWRITING HAND-FIST INDEX THUMB |HOOK|CURLICUE|CURVE THUMB INSIDE",
   "1d8e9 SIGNWRITING HAND-|CLAW INDEX THUMB CURVE THUMB INSIDE|FIST INDEX THUMB CURVE THUMB UNDER",
   "1d8eb SIGNWRITING HAND-|FIST INDEX THUMB CIRCLE|CUP INDEX THUMB|CUP INDEX THUMB OPEN",
   "1d8ee SIGNWRITING HAND-HINGE INDEX |THUMB OPEN|THUMB LARGE|THUMB|THUMB SMALL",
   "1d8f2 SIGNWRITING HAND-ANGLE INDEX |THUMB OUT|THUMB IN|THUMB",
   "1d8f5 |SIGNWRITING HAND-FIST THUMB",
   "1d8f6 SIGNWRITING HAND-FIST THUMB |HEEL|SIDE DIAGONAL|SIDE CONJOINED|SIDE BENT|FORWARD",
   "1d8fb SIGNWRITING HAND-FIST THUMB BETWEEN |INDEX MIDDLE|MIDDLE RING|RING LITTLE",
   "1d8fe SIGNWRITING HAND-FIST THUMB |UNDER TWO FINGERS|OVER TWO FINGERS|UNDER THREE FINGERS",
   "1d901 SIGNWRITING HAND-FIST THUMB |UNDER FOUR FINGERS|OVER FOUR RAISED KNUCKLES",
   "1d903 SIGNWRITING |HAND-FIST|HAND-FIST HEEL|TOUCH SINGLE|TOUCH MULTIPLE",
   "1d907 SIGNWRITING |TOUCH BETWEEN|GRASP SINGLE|GRASP MULTIPLE|GRASP BETWEEN|STRIKE SINGLE",
   "1d90c SIGNWRITING |STRIKE MULTIPLE|STRIKE BETWEEN|BRUSH SINGLE|BRUSH MULTIPLE|BRUSH BETWEEN",
   "1d911 SIGNWRITING |RUB SINGLE|RUB MULTIPLE|RUB BETWEEN|SURFACE SYMBOLS|SURFACE BETWEEN",
   "1d916 SIGNWRITING SQUEEZE |LARGE SINGLE|SMALL SINGLE|LARGE MULTIPLE|SMALL MULTIPLE|SEQUENTIAL",
   "1d91b SIGNWRITING FLICK |LARGE SINGLE|SMALL SINGLE|LARGE MULTIPLE|SMALL MULTIPLE|SEQUENTIAL",
   "1d920 |SIGNWRITING SQUEEZE FLICK ALTERNATING",
   "1d921 SIGNWRITING MOVEMENT-HINGE |UP DOWN LARGE|UP DOWN SMALL|UP SEQUENTIAL|DOWN SEQUENTIAL",
   "1d925 SIGNWRITING MOVEMENT-HINGE UP DOWN ALTERNATING |LARGE|SMALL",
   "1d927 SIGNWRITING MOVEMENT-|HINGE SIDE TO SIDE SCISSORS|WALLPLANE FINGER CONTACT",
   "1d929 |SIGNWRITING MOVEMENT-FLOORPLANE FINGER CONTACT",
   "1d92a SIGNWRITING MOVEMENT-WALLPLANE SINGLE STRAIGHT |SMALL|MEDIUM|LARGE|LARGEST",
   "1d92e SIGNWRITING MOVEMENT-WALLPLANE |SINGLE WRIST FLEX|DOUBLE STRAIGHT",
   "1d930 SIGNWRITING MOVEMENT-WALLPLANE DOUBLE |WRIST FLEX|ALTERNATING|ALTERNATING WRIST FLEX",
   "1d933 SIGNWRITING MOVEMENT-WALLPLANE |CROSS|TRIPLE STRAIGHT MOVEMENT",
   "1d935 SIGNWRITING MOVEMENT-WALLPLANE TRIPLE |WRIST FLEX|ALTERNATING|ALTERNATING WRIST FLEX",
   "1d938 SIGNWRITING MOVEMENT-WALLPLANE BEND |SMALL|MEDIUM|LARGE",
   "1d93b SIGNWRITING MOVEMENT-WALLPLANE CORNER |SMALL|MEDIUM|LARGE|ROTATION",
   "1d93f SIGNWRITING MOVEMENT-WALLPLANE |CHECK SMALL|CHECK MEDIUM|CHECK LARGE|BOX SMALL",
   "1d943 SIGNWRITING MOVEMENT-WALLPLANE |BOX MEDIUM|BOX LARGE|ZIGZAG SMALL|ZIGZAG MEDIUM",
   "1d947 SIGNWRITING MOVEMENT-WALLPLANE |ZIGZAG LARGE|PEAKS SMALL|PEAKS MEDIUM|PEAKS LARGE",
   "1d94b SIGNWRITING TRAVEL-WALLPLANE ROTATION-WALLPLANE |SINGLE|DOUBLE|ALTERNATING",
   "1d94e SIGNWRITING TRAVEL-WALLPLANE ROTATION-FLOORPLANE |SINGLE|DOUBLE|ALTERNATING",
   "1d951 |SIGNWRITING TRAVEL-WALLPLANE SHAKING",
   "1d952 SIGNWRITING TRAVEL-WALLPLANE ARM SPIRAL |SINGLE|DOUBLE|TRIPLE",
   "1d955 SIGNWRITING MOVEMENT-DIAGONAL AWAY |SMALL|MEDIUM|LARGE|LARGEST",
   "1d959 SIGNWRITING MOVEMENT-DIAGONAL TOWARDS |SMALL|MEDIUM|LARGE|LARGEST",
   "1d95d SIGNWRITING MOVEMENT-DIAGONAL BETWEEN AWAY |SMALL|MEDIUM|LARGE|LARGEST",
   "1d961 SIGNWRITING MOVEMENT-DIAGONAL BETWEEN TOWARDS |SMALL|MEDIUM|LARGE|LARGEST",
   "1d965 SIGNWRITING MOVEMENT-FLOORPLANE SINGLE STRAIGHT |SMALL|MEDIUM|LARGE|LARGEST",
   "1d969 SIGNWRITING MOVEMENT-FLOORPLANE |SINGLE WRIST FLEX|DOUBLE STRAIGHT",
   "1d96b SIGNWRITING MOVEMENT-FLOORPLANE DOUBLE |WRIST FLEX|ALTERNATING|ALTERNATING WRIST FLEX",
   "1d96e SIGNWRITING MOVEMENT-FLOORPLANE |CROSS|TRIPLE STRAIGHT MOVEMENT|TRIPLE WRIST FLEX",
   "1d971 SIGNWRITING MOVEMENT-FLOORPLANE TRIPLE ALTERNATING |MOVEMENT|WRIST FLEX",
   "1d973 SIGNWRITING MOVEMENT-FLOORPLANE |BEND|CORNER SMALL|CORNER MEDIUM|CORNER LARGE|CHECK",
   "1d978 SIGNWRITING MOVEMENT-FLOORPLANE BOX |SMALL|MEDIUM|LARGE",
   "1d97b SIGNWRITING MOVEMENT-FLOORPLANE ZIGZAG |SMALL|MEDIUM|LARGE",
   "1d97e SIGNWRITING MOVEMENT-FLOORPLANE PEAKS |SMALL|MEDIUM|LARGE",
   "1d981 SIGNWRITING TRAVEL-FLOORPLANE ROTATION-FLOORPLANE |SINGLE|DOUBLE|ALTERNATING",
   "1d984 SIGNWRITING TRAVEL-FLOORPLANE ROTATION-WALLPLANE |SINGLE|DOUBLE|ALTERNATING",
   "1d987 |SIGNWRITING TRAVEL-FLOORPLANE SHAKING",
   "1d988 SIGNWRITING MOVEMENT-WALLPLANE CURVE QUARTER |SMALL|MEDIUM|LARGE|LARGEST",
   "1d98c SIGNWRITING MOVEMENT-WALLPLANE CURVE HALF-CIRCLE |SMALL|MEDIUM|LARGE|LARGEST",
   "1d990 SIGNWRITING MOVEMENT-WALLPLANE CURVE THREE-QUARTER CIRCLE |SMALL|MEDIUM",
   "1d992 SIGNWRITING MOVEMENT-WALLPLANE HUMP |SMALL|MEDIUM|LARGE",
   "1d995 SIGNWRITING MOVEMENT-WALLPLANE LOOP |SMALL|MEDIUM|LARGE|SMALL DOUBLE",
   "1d999 SIGNWRITING MOVEMENT-WALLPLANE WAVE CURVE DOUBLE |SMALL|MEDIUM|LARGE",
   "1d99c SIGNWRITING MOVEMENT-WALLPLANE WAVE CURVE TRIPLE |SMALL|MEDIUM|LARGE",
   "1d99f |SIGNWRITING MOVEMENT-WALLPLANE CURVE THEN STRAIGHT",
   "1d9a0 SIGNWRITING MOVEMENT-WALLPLANE CURVED CROSS |SMALL|MEDIUM",
   "1d9a2 SIGNWRITING ROTATION-WALLPLANE |SINGLE|DOUBLE|ALTERNATE",
   "1d9a5 SIGNWRITING MOVEMENT-WALLPLANE |SHAKING|CURVE HITTING FRONT WALL|HUMP HITTING FRONT WALL",
   "1d9a8 SIGNWRITING MOVEMENT-WALLPLANE |LOOP HITTING FRONT WALL|WAVE HITTING FRONT WALL",
   "1d9aa |SIGNWRITING ROTATION-WALLPLANE SINGLE HITTING FRONT WALL",
   "1d9ab SIGNWRITING ROTATION-WALLPLANE |DOUBLE HITTING FRONT WALL|ALTERNATING HITTING FRONT WALL",
   "1d9ad |SIGNWRITING MOVEMENT-WALLPLANE CURVE HITTING CHEST",
   "1d9ae SIGNWRITING MOVEMENT-WALLPLANE |HUMP HITTING CHEST|LOOP HITTING CHEST|WAVE HITTING CHEST",
   "1d9b1 |SIGNWRITING ROTATION-WALLPLANE SINGLE HITTING CHEST",
   "1d9b2 SIGNWRITING ROTATION-WALLPLANE |DOUBLE HITTING CHEST|ALTERNATING HITTING CHEST",
   "1d9b4 SIGNWRITING MOVEMENT-WALLPLANE WAVE DIAGONAL PATH |SMALL|MEDIUM|LARGE",
   "1d9b7 SIGNWRITING MOVEMENT-FLOORPLANE CURVE HITTING CEILING |SMALL|LARGE",
   "1d9b9 SIGNWRITING MOVEMENT-FLOORPLANE HUMP HITTING CEILING |SMALL DOUBLE|LARGE DOUBLE",
   "1d9bb SIGNWRITING MOVEMENT-FLOORPLANE HUMP HITTING CEILING |SMALL TRIPLE|LARGE TRIPLE",
   "1d9bd SIGNWRITING MOVEMENT-FLOORPLANE LOOP HITTING CEILING |SMALL SINGLE|LARGE SINGLE",
   "1d9bf SIGNWRITING MOVEMENT-FLOORPLANE LOOP HITTING CEILING |SMALL DOUBLE|LARGE DOUBLE",
   "1d9c1 SIGNWRITING MOVEMENT-FLOORPLANE WAVE HITTING CEILING |SMALL|LARGE",
   "1d9c3 |SIGNWRITING ROTATION-FLOORPLANE SINGLE HITTING CEILING",
   "1d9c4 SIGNWRITING ROTATION-FLOORPLANE |DOUBLE HITTING CEILING|ALTERNATING HITTING CEILING",
   "1d9c6 SIGNWRITING MOVEMENT-FLOORPLANE CURVE HITTING FLOOR |SMALL|LARGE",
   "1d9c8 SIGNWRITING MOVEMENT-FLOORPLANE HUMP HITTING FLOOR |SMALL DOUBLE|LARGE DOUBLE",
   "1d9ca SIGNWRITING MOVEMENT-FLOORPLANE HUMP HITTING FLOOR TRIPLE |SMALL TRIPLE|LARGE TRIPLE",
   "1d9cc SIGNWRITING MOVEMENT-FLOORPLANE LOOP HITTING FLOOR |SMALL SINGLE|LARGE SINGLE",
   "1d9ce SIGNWRITING MOVEMENT-FLOORPLANE LOOP HITTING FLOOR |SMALL DOUBLE|LARGE DOUBLE",
   "1d9d0 SIGNWRITING MOVEMENT-FLOORPLANE WAVE HITTING FLOOR |SMALL|LARGE",
   "1d9d2 |SIGNWRITING ROTATION-FLOORPLANE SINGLE HITTING FLOOR",
   "1d9d3 SIGNWRITING ROTATION-FLOORPLANE |DOUBLE HITTING FLOOR|ALTERNATING HITTING FLOOR",
   "1d9d5 SIGNWRITING MOVEMENT-FLOORPLANE CURVE |SMALL|MEDIUM|LARGE|LARGEST|COMBINED",
   "1d9da SIGNWRITING MOVEMENT-FLOORPLANE |HUMP SMALL|LOOP SMALL|WAVE SNAKE|WAVE SMALL|WAVE LARGE",
   "1d9df SIGNWRITING ROTATION-FLOORPLANE |SINGLE|DOUBLE|ALTERNATING",
   "1d9e2 SIGNWRITING MOVEMENT-|FLOORPLANE SHAKING PARALLEL|WALLPLANE ARM CIRCLE SMALL SINGLE",
   "1d9e4 SIGNWRITING MOVEMENT-WALLPLANE ARM CIRCLE |MEDIUM SINGLE|SMALL DOUBLE|MEDIUM DOUBLE",
   "1d9e7 SIGNWRITING MOVEMENT-FLOORPLANE ARM CIRCLE HITTING WALL |SMALL SINGLE|MEDIUM SINGLE",
   "1d9e9 SIGNWRITING MOVEMENT-FLOORPLANE ARM CIRCLE HITTING WALL |LARGE SINGLE|SMALL DOUBLE",
   "1d9eb SIGNWRITING MOVEMENT-FLOORPLANE ARM CIRCLE HITTING WALL |MEDIUM DOUBLE|LARGE DOUBLE",
   "1d9ed SIGNWRITING MOVEMENT-WALLPLANE WRIST CIRCLE FRONT |SINGLE|DOUBLE",
   "1d9ef SIGNWRITING MOVEMENT-FLOORPLANE WRIST CIRCLE HITTING WALL |SINGLE|DOUBLE",
   "1d9f1 SIGNWRITING MOVEMENT-WALLPLANE FINGER CIRCLES |SINGLE|DOUBLE",
   "1d9f3 SIGNWRITING MOVEMENT-FLOORPLANE FINGER CIRCLES HITTING WALL |SINGLE|DOUBLE",
   "1d9f5 SIGNWRITING DYNAMIC |ARROWHEAD SMALL|ARROWHEAD LARGE|FAST|SLOW|TENSE|RELAXED",
   "1d9fb SIGNWRITING DYNAMIC |SIMULTANEOUS|SIMULTANEOUS ALTERNATING|EVERY OTHER TIME|GRADUAL",
   "1d9ff SIGNWRITING |HEAD|HEAD RIM",
   "1da01 SIGNWRITING HEAD MOVEMENT-|WALLPLANE STRAIGHT|WALLPLANE TILT|FLOORPLANE STRAIGHT",
   "1da04 SIGNWRITING HEAD |MOVEMENT-WALLPLANE CURVE|MOVEMENT-FLOORPLANE CURVE|MOVEMENT CIRCLE",
   "1da07 SIGNWRITING FACE DIRECTION POSITION NOSE |FORWARD TILTING|UP OR DOWN|UP OR DOWN TILTING",
   "1da0a SIGNWRITING EYEBROWS STRAIGHT |UP|NEUTRAL|DOWN",
   "1da0d SIGNWRITING DREAMY EYEBROWS |NEUTRAL DOWN|DOWN NEUTRAL|UP NEUTRAL|NEUTRAL UP",
   "1da11 SIGNWRITING FOREHEAD |NEUTRAL|CONTACT|WRINKLED",
   "1da14 SIGNWRITING |EYES OPEN|EYES SQUEEZED|EYES CLOSED|EYE BLINK SINGLE|EYE BLINK MULTIPLE",
   "1da19 SIGNWRITING EYES |HALF OPEN|WIDE OPEN|HALF CLOSED|WIDENING MOVEMENT",
   "1da1d SIGNWRITING |EYE WINK|EYELASHES UP|EYELASHES DOWN|EYELASHES FLUTTERING",
   "1da21 SIGNWRITING EYEGAZE-WALLPLANE |STRAIGHT|STRAIGHT DOUBLE|STRAIGHT ALTERNATING",
   "1da24 SIGNWRITING EYEGAZE-FLOORPLANE |STRAIGHT|STRAIGHT DOUBLE|STRAIGHT ALTERNATING",
   "1da27 SIGNWRITING EYEGAZE-|WALLPLANE CURVED|FLOORPLANE CURVED|WALLPLANE CIRCLING",
   "1da2a SIGNWRITING CHEEKS |PUFFED|NEUTRAL|SUCKED",
   "1da2d SIGNWRITING TENSE CHEEKS |HIGH|MIDDLE|LOW",
   "1da30 SIGNWRITING |EARS|NOSE NEUTRAL|NOSE CONTACT|NOSE WRINKLES|NOSE WIGGLES",
   "1da35 SIGNWRITING AIR |BLOWING OUT|SUCKING IN|BLOW SMALL ROTATIONS|SUCK SMALL ROTATIONS",
   "1da39 SIGNWRITING BREATH |INHALE|EXHALE",
   "1da3b SIGNWRITING MOUTH CLOSED |NEUTRAL|FORWARD|CONTACT",
   "1da3e SIGNWRITING MOUTH |SMILE|SMILE WRINKLED|SMILE OPEN|FROWN|FROWN WRINKLED|FROWN OPEN",
   "1da44 SIGNWRITING MOUTH OPEN |CIRCLE|FORWARD|WRINKLED|OVAL|OVAL WRINKLED|OVAL YAWN|RECTANGLE",
   "1da4b SIGNWRITING MOUTH OPEN RECTANGLE |WRINKLED|YAWN",
   "1da4d SIGNWRITING MOUTH |KISS|KISS FORWARD|KISS WRINKLED|TENSE|TENSE FORWARD|TENSE SUCKED",
   "1da53 SIGNWRITING |LIPS PRESSED TOGETHER|LIP LOWER OVER UPPER|LIP UPPER OVER LOWER",
   "1da56 SIGNWRITING MOUTH |CORNERS|WRINKLES SINGLE|WRINKLES DOUBLE",
   "1da59 SIGNWRITING TONGUE |STICKING OUT FAR|LICKING LIPS|TIP BETWEEN LIPS",
   "1da5c SIGNWRITING TONGUE |TIP TOUCHING INSIDE MOUTH|INSIDE MOUTH RELAXED|MOVES AGAINST CHEEK",
   "1da5f SIGNWRITING |TONGUE CENTRE STICKING OUT|TONGUE CENTRE INSIDE MOUTH|TEETH|TEETH MOVEMENT",
   "1da63 SIGNWRITING TEETH |ON TONGUE|ON TONGUE MOVEMENT|ON LIPS|ON LIPS MOVEMENT|BITE LIPS",
   "1da68 SIGNWRITING |MOVEMENT-WALLPLANE JAW|MOVEMENT-FLOORPLANE JAW|NECK|HAIR|EXCITEMENT",
   "1da6d SIGNWRITING |SHOULDER HIP SPINE|SHOULDER HIP POSITIONS|WALLPLANE SHOULDER HIP MOVE",
   "1da70 SIGNWRITING |FLOORPLANE SHOULDER HIP MOVE|SHOULDER TILTING FROM WAIST",
   "1da72 SIGNWRITING TORSO-|WALLPLANE STRAIGHT STRETCH|WALLPLANE CURVED BEND|FLOORPLANE TWISTING",
   "1da75 SIGNWRITING |UPPER BODY TILTING FROM HIP JOINTS|LIMB COMBINATION",
   "1da77 SIGNWRITING LIMB LENGTH-|1|2|3|4|5|6|7",
   "1da7e SIGNWRITING |FINGER|LOCATION-WALLPLANE SPACE|LOCATION-FLOORPLANE SPACE",
   "1da81 SIGNWRITING LOCATION |HEIGHT|WIDTH|DEPTH|HEAD NECK|TORSO|LIMBS DIGITS",
   "1da87 SIGNWRITING |COMMA|FULL STOP|SEMICOLON|COLON|PARENTHESIS",
   "1da9b SIGNWRITING FILL MODIFIER-|2|3|4|5|6",
   "1daa1 SIGNWRITING ROTATION MODIFIER-|2|3|4|5|6|7|8|9|10|11|12|13|14|15|16",
   "1df00 LATIN SMALL LETTER |FENG DIGRAPH WITH TRILL|REVERSED SCRIPT G",
   "1df02 |LATIN LETTER SMALL CAPITAL TURNED G",
   "1df03 LATIN |SMALL LETTER REVERSED K|LETTER SMALL CAPITAL L WITH BELT",
   "1df05 LATIN SMALL LETTER |LEZH WITH RETROFLEX HOOK|TURNED Y WITH BELT",
   "1df07 LATIN SMALL LETTER |REVERSED ENG|TURNED R WITH LONG LEG AND RETROFLEX HOOK",
   "1df09 |LATIN SMALL LETTER T WITH HOOK AND RETROFLEX HOOK",
   "1df0a |LATIN LETTER RETROFLEX CLICK WITH RETROFLEX HOOK",
   "1df0b LATIN SMALL LETTER |ESH WITH DOUBLE BAR|ESH WITH DOUBLE BAR AND CURL|TURNED T WITH CURL",
   "1df0e LATIN LETTER |INVERTED GLOTTAL STOP WITH CURL|STRETCHED C WITH CURL",
   "1df10 LATIN |LETTER SMALL CAPITAL TURNED K|SMALL LETTER L WITH FISHHOOK",
   "1df12 LATIN SMALL LETTER |DEZH DIGRAPH WITH PALATAL HOOK|L WITH BELT AND PALATAL HOOK",
   "1df14 LATIN SMALL LETTER |ENG WITH PALATAL HOOK|TURNED R WITH PALATAL HOOK",
   "1df16 LATIN SMALL LETTER |R WITH FISHHOOK AND PALATAL HOOK|TESH DIGRAPH WITH PALATAL HOOK",
   "1df18 LATIN SMALL LETTER |EZH WITH PALATAL HOOK|DEZH DIGRAPH WITH RETROFLEX HOOK",
   "1df1a LATIN SMALL LETTER |I WITH STROKE AND RETROFLEX HOOK|O WITH RETROFLEX HOOK",
   "1df1c LATIN SMALL LETTER |TESH DIGRAPH WITH RETROFLEX HOOK|C WITH RETROFLEX HOOK|S WITH CURL"]

end NextWord.Text.CharName
