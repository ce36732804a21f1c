/-!
# Names of the scripts from Linear B to Tamil fractions

Blocks of names of Unicode 14 in the order of their code points; the module on lookup says how a
block is written.
-/

namespace NextWord.Text.CharName

def historicScripts : List String :=
  ["10000 LINEAR B SYLLABLE |B008 A|B038 E|B028 I",
   "10003 LINEAR B SYLLABLE |B061 O|B010 U|B001 DA|B045 DE|B007 DI|B014 DO|B051 DU|B057 JA|B046 JE",
   "1000d LINEAR B SYLLABLE |B036 JO|B065 JU",
   "1000f LINEAR B SYLLABLE |B077 KA|B044 KE|B067 KI|B070 KO|B081 KU|B080 MA|B013 ME|B073 MI",
   "10017 LINEAR B SYLLABLE |B015 MO|B023 MU|B006 NA|B024 NE|B030 NI|B052 NO|B055 NU|B003 PA",
   "1001f LINEAR B SYLLABLE |B072 PE|B039 PI|B011 PO|B050 PU|B016 QA|B078 QE|B021 QI|B032 QO",
   "10028 LINEAR B SYLLABLE |B060 RA|B027 RE|B053 RI",
   "1002b LINEAR B SYLLABLE |B002 RO|B026 RU|B031 SA|B009 SE|B041 SI|B012 SO|B058 SU|B059 TA",
   "10033 LINEAR B SYLLABLE |B004 TE|B037 TI|B005 TO|B069 TU|B054 WA|B075 WE|B040 WI|B042 WO",
   "1003c LINEAR B SYLLABLE |B017 ZA|B074 ZE",
   "1003f LINEAR B SYLLABLE |B020 ZO|B025 A2|B043 A3|B085 AU|B071 DWE|B090 DWO|B048 NWA|B029 PU2",
   "10047 LINEAR B SYLLABLE |B062 PTE|B076 RA2|B033 RA3|B068 RO2|B066 TA2|B087 TWE|B091 TWO",
   "10050 LINEAR B SYMBOL |B018|B019|B022|B034|B047|B049|B056|B063|B064|B079|B082|B083|B086|B089",
   "10080 LINEAR B IDEOGRAM |B100 MAN|B102 WOMAN|B104 DEER|B105 EQUID|B105F MARE|B105M STALLION",
   "10086 LINEAR B IDEOGRAM |B106F EWE|B106M RAM|B107F SHE-GOAT|B107M HE-GOAT|B108F SOW|B108M BOAR",
   "1008c LINEAR B IDEOGRAM |B109F COW|B109M BULL|B120 WHEAT|B121 BARLEY|B122 OLIVE|B123 SPICE",
   "10092 LINEAR B |IDEOGRAM B125 CYPERUS|MONOGRAM B127 KAPO|MONOGRAM B128 KANAKO",
   "10095 LINEAR B IDEOGRAM |B130 OIL|B131 WINE|B132",
   "10098 LINEAR B MONOGRAM |B133 AREPA|B135 MERI",
   "1009a LINEAR B IDEOGRAM |B140 BRONZE|B141 GOLD|B142|B145 WOOL|B146|B150|B151 HORN|B152|B153",
   "100a3 LINEAR B |IDEOGRAM B154|MONOGRAM B156 TURO2|IDEOGRAM B157|IDEOGRAM B158",
   "100a7 LINEAR B IDEOGRAM |B159 CLOTH|B160|B161|B162 GARMENT|B163 ARMOUR|B164|B165|B166|B167",
   "100b0 LINEAR B IDEOGRAM |B168|B169|B170|B171|B172|B173 MONTH|B174|B176 TREE|B177|B178|B179",
   "100bb LINEAR B IDEOGRAM |B180|B181|B182|B183|B184|B185|B189|B190|B191 HELMET|B220 FOOTSTOOL",
   "100c5 LINEAR B IDEOGRAM |B225 BATHTUB|B230 SPEAR|B231 ARROW|B232|B233 SWORD|B234|B236",
   "100cc LINEAR B IDEOGRAM |B240 WHEELED CHARIOT|B241 CHARIOT|B242 CHARIOT FRAME|B243 WHEEL|B245",
   "100d1 LINEAR B |IDEOGRAM B246|MONOGRAM B247 DIPTE",
   "100d3 LINEAR B IDEOGRAM |B248|B249|B251|B252|B253|B254 DART|B255|B256|B257|B258|B259",
   "100de LINEAR B IDEOGRAM VESSEL |B155|B200|B201|B202|B203|B204|B205",
   "100e5 LINEAR B IDEOGRAM VESSEL |B206|B207|B208|B209|B210|B211|B212|B213|B214|B215|B216",
   "100f0 LINEAR B IDEOGRAM VESSEL |B217|B218|B219|B221|B222|B226|B227|B228|B229|B250|B305",
   "10100 AEGEAN |WORD SEPARATOR LINE|WORD SEPARATOR DOT|CHECK MARK",
   "10107 AEGEAN NUMBER |ONE|TWO|THREE|FOUR|FIVE|SIX|SEVEN",
   "1010e AEGEAN NUMBER |EIGHT|NINE|TEN|TWENTY|THIRTY|FORTY|FIFTY|SIXTY|SEVENTY|EIGHTY|NINETY",
   "10119 AEGEAN NUMBER |ONE HUNDRED|TWO HUNDRED|THREE HUNDRED|FOUR HUNDRED",
   "1011d AEGEAN NUMBER |FIVE HUNDRED|SIX HUNDRED|SEVEN HUNDRED|EIGHT HUNDRED|NINE HUNDRED",
   "10122 AEGEAN NUMBER |ONE THOUSAND|TWO THOUSAND|THREE THOUSAND|FOUR THOUSAND|FIVE THOUSAND",
   "10127 AEGEAN NUMBER |SIX THOUSAND|SEVEN THOUSAND|EIGHT THOUSAND|NINE THOUSAND|TEN THOUSAND",
   "1012c AEGEAN NUMBER |TWENTY THOUSAND|THIRTY THOUSAND|FORTY THOUSAND|FIFTY THOUSAND",
   "10130 AEGEAN NUMBER |SIXTY THOUSAND|SEVENTY THOUSAND|EIGHTY THOUSAND|NINETY THOUSAND",
   "10137 AEGEAN WEIGHT |BASE UNIT|FIRST SUBUNIT|SECOND SUBUNIT|THIRD SUBUNIT|FOURTH SUBUNIT",
   "1013c AEGEAN |DRY MEASURE FIRST SUBUNIT|LIQUID MEASURE FIRST SUBUNIT|MEASURE SECOND SUBUNIT",
   "1013f |AEGEAN MEASURE THIRD SUBUNIT|GREEK ACROPHONIC ATTIC ONE QUARTER",
   "10141 GREEK ACROPHONIC ATTIC |ONE HALF|ONE DRACHMA|FIVE|FIFTY|FIVE HUNDRED|FIVE THOUSAND",
   "10147 GREEK ACROPHONIC ATTIC |FIFTY THOUSAND|FIVE TALENTS|TEN TALENTS|FIFTY TALENTS",
   "1014b GREEK ACROPHONIC ATTIC |ONE HUNDRED TALENTS|FIVE HUNDRED TALENTS|ONE THOUSAND TALENTS",
   "1014e GREEK ACROPHONIC ATTIC |FIVE THOUSAND TALENTS|FIVE STATERS|TEN STATERS|FIFTY STATERS",
   "10152 GREEK ACROPHONIC ATTIC |ONE HUNDRED STATERS|FIVE HUNDRED STATERS|ONE THOUSAND STATERS",
   "10155 GREEK ACROPHONIC ATTIC |TEN THOUSAND STATERS|FIFTY THOUSAND STATERS|TEN MNAS",
   "10158 GREEK ACROPHONIC |HERAEUM ONE PLETHRON|THESPIAN ONE|HERMIONIAN ONE|EPIDAUREAN TWO",
   "1015c GREEK ACROPHONIC |THESPIAN TWO|CYRENAIC TWO DRACHMAS|EPIDAUREAN TWO DRACHMAS",
   "1015f GREEK ACROPHONIC TROEZENIAN |FIVE|TEN|TEN ALTERNATE FORM",
   "10162 GREEK ACROPHONIC |HERMIONIAN TEN|MESSENIAN TEN|THESPIAN TEN|THESPIAN THIRTY",
   "10166 GREEK ACROPHONIC |TROEZENIAN FIFTY|TROEZENIAN FIFTY ALTERNATE FORM|HERMIONIAN FIFTY",
   "10169 GREEK ACROPHONIC THESPIAN |FIFTY|ONE HUNDRED|THREE HUNDRED",
   "1016c GREEK ACROPHONIC |EPIDAUREAN FIVE HUNDRED|TROEZENIAN FIVE HUNDRED|THESPIAN FIVE HUNDRED",
   "1016f GREEK ACROPHONIC |CARYSTIAN FIVE HUNDRED|NAXIAN FIVE HUNDRED|THESPIAN ONE THOUSAND",
   "10172 GREEK ACROPHONIC |THESPIAN FIVE THOUSAND|DELPHIC FIVE MNAS|STRATIAN FIFTY MNAS",
   "10175 GREEK ONE HALF |SIGN|SIGN ALTERNATE FORM",
   "10177 GREEK |TWO THIRDS SIGN|THREE QUARTERS SIGN|YEAR SIGN|TALENT SIGN|DRACHMA SIGN|OBOL SIGN",
   "1017d GREEK |TWO OBOLS SIGN|THREE OBOLS SIGN|FOUR OBOLS SIGN|FIVE OBOLS SIGN|METRETES SIGN",
   "10182 GREEK |KYATHOS BASE SIGN|LITRA SIGN|OUNKIA SIGN|XESTES SIGN|ARTABE SIGN|AROURA SIGN",
   "10188 GREEK |GRAMMA SIGN|TRYBLION BASE SIGN|ZERO SIGN|ONE QUARTER SIGN|SINUSOID SIGN",
   "1018d |GREEK INDICTION SIGN|NOMISMA SIGN",
   "10190 ROMAN |SEXTANS SIGN|UNCIA SIGN|SEMUNCIA SIGN|SEXTULA SIGN|DIMIDIA SEXTULA SIGN",
   "10195 ROMAN |SILIQUA SIGN|DENARIUS SIGN|QUINARIUS SIGN|SESTERTIUS SIGN|DUPONDIUS SIGN|AS SIGN",
   "1019b |ROMAN CENTURIAL SIGN|ASCIA SYMBOL",
   "101a0 |GREEK SYMBOL TAU RHO",
   "101d0 PHAISTOS DISC SIGN |PEDESTRIAN|PLUMED HEAD|TATTOOED HEAD|CAPTIVE|CHILD|WOMAN|HELMET",
   "101d7 PHAISTOS DISC SIGN |GAUNTLET|TIARA|ARROW|BOW|SHIELD|CLUB|MANACLES|MATTOCK|SAW",
   "101e0 PHAISTOS DISC SIGN |LID|BOOMERANG|CARPENTRY PLANE",
   "101e3 PHAISTOS DISC SIGN |DOLIUM|COMB|SLING|COLUMN|BEEHIVE|SHIP|HORN|HIDE|BULLS LEG|CAT|RAM",
   "101ee PHAISTOS DISC SIGN |EAGLE|DOVE|TUNNY|BEE|PLANE TREE|VINE|PAPYRUS|ROSETTE|LILY|OX BACK",
   "101f8 PHAISTOS DISC SIGN |FLUTE|GRATER|STRAINER|SMALL AXE|WAVY BAND|COMBINING OBLIQUE STROKE",
   "10280 LYCIAN LETTER |A|E|B|BH|G|D|I|W|Z|TH|J|K|Q|L|M|N|MM|NN|U|P|KK|R|S|T|TT|AN|EN|H|X",
   "102a0 CARIAN LETTER |A|P2",
   "102a2 CARIAN LETTER |D|L|UUU|R|LD|A2|Q|B|M|O|D2|T|SH|SH2|S|C-18|U|NN|X|N|TT2|P|SS|I|E|UUUU|K",
   "102bd CARIAN LETTER |K2|ND|UU|G|G2|ST|ST2|NG|II|C-39|TT|UUU2|RR|MB|MB2|MB3|MB4|LD2|E2|UUU3",
   "102e0 |COPTIC EPACT THOUSANDS MARK",
   "102e1 COPTIC EPACT DIGIT |ONE|TWO|THREE|FOUR|FIVE|SIX|SEVEN|EIGHT|NINE",
   "102ea COPTIC EPACT NUMBER |TEN|TWENTY|THIRTY|FORTY|FIFTY|SIXTY|SEVENTY|EIGHTY|NINETY",
   "102f3 COPTIC EPACT NUMBER |ONE HUNDRED|TWO HUNDRED|THREE HUNDRED|FOUR HUNDRED|FIVE HUNDRED",
   "102f8 COPTIC EPACT NUMBER |SIX HUNDRED|SEVEN HUNDRED|EIGHT HUNDRED|NINE HUNDRED",
   "10300 OLD ITALIC LETTER |A|BE|KE|DE|E|VE|ZE|HE|THE|I|KA",
   "1030b OLD ITALIC LETTER |EL|EM|EN|ESH|O|PE|SHE|KU|ER|ES|TE|U|EKS|PHE|KHE|EF|ERS|CHE|II|UU|ESS",
   "10320 OLD ITALIC NUMERAL |ONE|FIVE|TEN|FIFTY",
   "1032d OLD ITALIC LETTER |YE|NORTHERN TSE|SOUTHERN TSE",
   "10330 GOTHIC LETTER |AHSA|BAIRKAN|GIBA|DAGS|AIHVUS",
   "10335 GOTHIC LETTER |QAIRTHRA|IUJA|HAGL|THIUTH|EIS|KUSMA|LAGUS|MANNA|NAUTHS|JER|URUS|PAIRTHRA",
   "10341 GOTHIC LETTER |NINETY|RAIDA|SAUIL|TEIWS|WINJA|FAIHU|IGGWS|HWAIR|OTHAL|NINE HUNDRED",
   "10350 OLD PERMIC LETTER |AN|BUR|GAI|DOI|E|ZHOI|DZHOI|ZATA",
   "10358 OLD PERMIC LETTER |DZITA|I|KOKE|LEI|MENOE|NENOE|VOOI|PEEI|REI|SII|TAI|U|CHERY",
   "10365 OLD PERMIC LETTER |SHOOI|SHCHOOI|YRY|YERU|O|OO|EF|HA|TSIU|VER|YER|YERI|YAT|IE|YU|YA|IA",
   "10376 COMBINING OLD PERMIC LETTER |AN|DOI|ZATA|NENOE|SII",
   "10380 UGARITIC LETTER |ALPA|BETA|GAMLA|KHA|DELTA|HO|WO|ZETA|HOTA|TET|YOD|KAF|SHIN|LAMDA",
   "1038e UGARITIC LETTER |MEM|DHAL|NUN|ZU|SAMKA|AIN|PU|SADE|QOPA|RASHA|THANNA|GHAIN|TO|I|U|SSU",
   "1039f |UGARITIC WORD DIVIDER",
   "103a0 OLD PERSIAN SIGN |A|I|U|KA|KU|GA|GU|XA|CA|JA|JI|TA|TU|DA|DI|DU|THA|PA",
   "103b2 OLD PERSIAN SIGN |BA|FA|NA|NU|MA|MI|MU|YA|VA|VI|RA|RU|LA|SA|ZA|SHA|SSA|HA",
   "103c8 OLD PERSIAN SIGN |AURAMAZDAA|AURAMAZDAA-2|AURAMAZDAAHA|XSHAAYATHIYA|DAHYAAUSH",
   "103cd OLD PERSIAN |SIGN DAHYAAUSH-2|SIGN BAGA|SIGN BUUMISH|WORD DIVIDER",
   "103d1 OLD PERSIAN NUMBER |ONE|TWO|TEN|TWENTY|HUNDRED",
   "10400 DESERET CAPITAL LETTER |LONG I|LONG E|LONG A|LONG AH|LONG O|LONG OO|SHORT I|SHORT E",
   "10408 DESERET CAPITAL LETTER |SHORT A|SHORT AH|SHORT O|SHORT OO|AY|OW|WU|YEE|H|PEE|BEE|TEE|DEE",
   "10415 DESERET CAPITAL LETTER |CHEE|JEE|KAY|GAY|EF|VEE|ETH|THEE|ES|ZEE|ESH|ZHEE|ER|EL|EM|EN|ENG",
   "10426 DESERET |CAPITAL LETTER OI|CAPITAL LETTER EW|SMALL LETTER LONG I",
   "10429 DESERET SMALL LETTER |LONG E|LONG A|LONG AH|LONG O|LONG OO|SHORT I|SHORT E|SHORT A",
   "10431 DESERET SMALL LETTER |SHORT AH|SHORT O|SHORT OO|AY|OW|WU|YEE|H|PEE|BEE|TEE|DEE|CHEE",
   "1043e DESERET SMALL LETTER |JEE|KAY|GAY|EF|VEE|ETH|THEE|ES|ZEE|ESH|ZHEE|ER|EL|EM|EN|ENG|OI|EW",
   "10450 SHAVIAN LETTER |PEEP|TOT|KICK|FEE|THIGH|SO|SURE|CHURCH|YEA|HUNG|BIB|DEAD|GAG|VOW|THEY",
   "1045f SHAVIAN LETTER |ZOO|MEASURE|JUDGE|WOE|HA-HA|LOLL|MIME|IF|EGG|ASH|ADO|ON|WOOL|OUT|AH|ROAR",
   "1046f SHAVIAN LETTER |NUN|EAT|AGE|ICE|UP|OAK|OOZE|OIL|AWE|ARE|OR|AIR|ERR|ARRAY|EAR|IAN|YEW",
   "10480 OSMANYA LETTER |ALEF|BA|TA|JA|XA|KHA|DEEL|RA|SA|SHIIN",
   "1048a OSMANYA LETTER |DHA|CAYN|GA|FA|QAAF|KAAF|LAAN|MIIN|NUUN|WAW|HA|YA|A|E|I|O|U|AA|EE|OO",
   "104a0 OSMANYA DIGIT |ZERO|ONE|TWO|THREE|FOUR|FIVE|SIX|SEVEN|EIGHT|NINE",
   "104b0 OSAGE CAPITAL LETTER |A|AI|AIN|AH|BRA|CHA|EHCHA|E|EIN|HA|HYA|I|KA|EHKA|KYA|LA|MA|NA|O",
   "104c3 OSAGE CAPITAL LETTER |OIN|PA|EHPA|SA|SHA|TA|EHTA|TSA|EHTSA|TSHA|DHA|U|WA|KHA|GHA|ZA|ZHA",
   "104d8 OSAGE SMALL LETTER |A|AI|AIN|AH|BRA|CHA|EHCHA|E|EIN|HA|HYA|I|KA|EHKA|KYA|LA|MA|NA",
   "104ea OSAGE SMALL LETTER |O|OIN|PA|EHPA|SA|SHA|TA|EHTA|TSA|EHTSA|TSHA|DHA|U|WA|KHA|GHA|ZA|ZHA",
   "10500 ELBASAN LETTER |A|BE|CE|CHE|DE|NDE|DHE|EI|E|FE|GE|GJE|HE|I|JE|KE|LE|LLE|ME|NE",
   "10514 ELBASAN LETTER |NA|NJE|O|PE|QE|RE|RRE|SE|SHE|TE|THE|U|VE|XE|Y|ZE|ZHE|GHE|GHAMMA|KHE",
   "10530 CAUCASIAN ALBANIAN LETTER |ALT|BET|GIM|DAT|EB|ZARL|EYN|ZHIL|TAS|CHA|YOWD|ZHA|IRB|SHA|LAN",
   "1053f CAUCASIAN ALBANIAN LETTER |INYA|XEYN|DYAN|CAR|JHOX|KAR|LYIT|HEYT|QAY|AOR|CHOY|CHI|CYAY",
   "1054c CAUCASIAN ALBANIAN LETTER |MAQ|QAR|NOWC|DZYAY|SHAK|JAYN|ON|TYAY|FAM|DZAY|CHAT|PEN",
   "10558 CAUCASIAN ALBANIAN LETTER |GHEYS|RAT|SEYK|VEYZ|TIWR|SHOY|IWN|CYAW|CAYN|YAYD|PIWR|KIW",
   "1056f |CAUCASIAN ALBANIAN CITATION MARK",
   "10570 VITHKUQI CAPITAL LETTER |A|BBE|BE|CE|CHE|DE|DHE|EI|E|FE|GA",
   "1057c VITHKUQI CAPITAL LETTER |HA|HHA|I|IJE|JE|KA|LA|LLA|ME|NE|NJE|O|PE|QA|RE",
   "1058c VITHKUQI CAPITAL LETTER |SE|SHE|TE|THE|U|VE|XE",
   "10594 VITHKUQI CAPITAL LETTER |Y|ZE",
   "10597 VITHKUQI SMALL LETTER |A|BBE|BE|CE|CHE|DE|DHE|EI|E|FE|GA",
   "105a3 VITHKUQI SMALL LETTER |HA|HHA|I|IJE|JE|KA|LA|LLA|ME|NE|NJE|O|PE|QA|RE",
   "105b3 VITHKUQI SMALL LETTER |SE|SHE|TE|THE|U|VE|XE",
   "105bb VITHKUQI SMALL LETTER |Y|ZE",
   "10600 LINEAR A SIGN |AB001|AB002|AB003|AB004|AB005|AB006|AB007|AB008|AB009|AB010|AB011|AB013",
   "1060c LINEAR A SIGN |AB016|AB017|AB020|AB021|AB021F|AB021M|AB022|AB022F|AB022M|AB023|AB023M",
   "10617 LINEAR A SIGN |AB024|AB026|AB027|AB028|A028B|AB029|AB030|AB031|AB034|AB037|AB038|AB039",
   "10623 LINEAR A SIGN |AB040|AB041|AB044|AB045|AB046|AB047|AB048|AB049|AB050|AB051|AB053",
   "1062e LINEAR A SIGN |AB054|AB055|AB056|AB057|AB058|AB059|AB060|AB061|AB065",
   "10637 LINEAR A SIGN |AB066|AB067|AB069|AB070|AB073|AB074|AB076|AB077|AB078|AB079|AB080|AB081",
   "10643 LINEAR A SIGN |AB082|AB085|AB086|AB087|A100-102|AB118|AB120|A120B|AB122|AB123|AB131A",
   "1064e LINEAR A SIGN |AB131B|A131C|AB164|AB171|AB180|AB188|AB191|A301|A302|A303|A304|A305",
   "1065a LINEAR A SIGN |A306|A307|A308|A309A|A309B|A309C|A310|A311|A312|A313A|A313B|A313C|A314",
   "10667 LINEAR A SIGN |A315|A316|A317|A318|A319|A320|A321|A322|A323|A324|A325|A326|A327",
   "10674 LINEAR A SIGN |A328|A329|A330|A331|A332|A333|A334|A335|A336|A337|A338|A339|A340|A341",
   "10682 LINEAR A SIGN |A342|A343|A344|A345|A346|A347|A348|A349|A350|A351|A352|A353|A354|A355",
   "10690 LINEAR A SIGN |A356|A357|A358|A359|A360|A361|A362|A363|A364|A365|A366|A367|A368|A369",
   "1069e LINEAR A SIGN |A370|A371|A400-VAS|A401-VAS|A402-VAS|A403-VAS|A404-VAS|A405-VAS|A406-VAS",
   "106a7 LINEAR A SIGN |A407-VAS|A408-VAS|A409-VAS|A410-VAS|A411-VAS|A412-VAS|A413-VAS|A414-VAS",
   "106af LINEAR A SIGN |A415-VAS|A416-VAS|A417-VAS|A418-VAS|A501|A502|A503|A504|A505|A506",
   "106b9 LINEAR A SIGN |A508|A509|A510|A511|A512|A513|A515|A516|A520|A521|A523|A524|A525|A526",
   "106c7 LINEAR A SIGN |A527|A528|A529|A530|A531|A532|A534|A535|A536|A537|A538|A539|A540|A541",
   "106d5 LINEAR A SIGN |A542|A545|A547|A548|A549|A550|A551|A552|A553|A554|A555|A556|A557|A559",
   "106e3 LINEAR A SIGN |A563|A564|A565|A566|A568|A569|A570|A571|A572|A573|A574|A575|A576|A577",
   "106f1 LINEAR A SIGN |A578|A579|A580|A581|A582|A583|A584|A585|A586|A587|A588|A589|A591|A592",
   "106ff LINEAR A SIGN |A594|A595|A596|A598|A600|A601|A602|A603|A604|A606|A608|A609|A610|A611",
   "1070d LINEAR A SIGN |A612|A613|A614|A615|A616|A617|A618|A619|A620|A621|A622|A623|A624|A626",
   "1071b LINEAR A SIGN |A627|A628|A629|A634|A637|A638|A640|A642|A643|A644|A645|A646|A648|A649",
   "10729 LINEAR A SIGN |A651|A652|A653|A654|A655|A656|A657|A658|A659|A660|A661|A662|A663|A664",
   "10740 LINEAR A SIGN |A701 A|A702 B|A703 D|A704 E|A705 F|A706 H|A707 J|A708 K|A709 L",
   "10749 LINEAR A SIGN |A709-2 L2|A709-3 L3|A709-4 L4|A709-6 L6|A710 W|A711 X|A712 Y",
   "10750 LINEAR A SIGN |A713 OMEGA|A714 ABB|A715 BB|A717 DD|A726 EYYY|A732 JE",
   "10760 LINEAR A SIGN |A800|A801|A802|A803|A804|A805|A806|A807",
   "10780 |MODIFIER LETTER SMALL CAPITAL AA",
   "10781 MODIFIER LETTER SUPERSCRIPT |TRIANGULAR COLON|HALF TRIANGULAR COLON",
   "10783 MODIFIER LETTER SMALL |AE|CAPITAL B|B WITH HOOK",
   "10787 MODIFIER LETTER SMALL DZ |DIGRAPH|DIGRAPH WITH RETROFLEX HOOK|DIGRAPH WITH CURL",
   "1078a MODIFIER LETTER SMALL |DEZH DIGRAPH|D WITH TAIL|D WITH HOOK|D WITH HOOK AND TAIL",
   "1078e MODIFIER LETTER SMALL |REVERSED E|CLOSED REVERSED OPEN E|FENG DIGRAPH|RAMS HORN",
   "10792 MODIFIER LETTER SMALL |CAPITAL G|G WITH HOOK|CAPITAL G WITH HOOK|H WITH STROKE",
   "10796 MODIFIER LETTER SMALL |CAPITAL H|HENG WITH HOOK|DOTLESS J WITH STROKE AND HOOK",
   "10799 MODIFIER LETTER SMALL |LS DIGRAPH|LZ DIGRAPH|L WITH BELT|CAPITAL L WITH BELT",
   "1079d MODIFIER LETTER SMALL |L WITH RETROFLEX HOOK AND BELT|LEZH|LEZH WITH RETROFLEX HOOK",
   "107a0 MODIFIER LETTER SMALL TURNED |Y|Y WITH BELT",
   "107a2 MODIFIER LETTER SMALL |O WITH STROKE|CAPITAL OE|CLOSED OMEGA|Q",
   "107a6 MODIFIER LETTER SMALL TURNED R WITH LONG |LEG|LEG AND RETROFLEX HOOK",
   "107a8 MODIFIER LETTER SMALL |R WITH TAIL|R WITH FISHHOOK|CAPITAL R|TC DIGRAPH WITH CURL",
   "107ac MODIFIER LETTER SMALL TS |DIGRAPH|DIGRAPH WITH RETROFLEX HOOK",
   "107ae MODIFIER LETTER SMALL |TESH DIGRAPH|T WITH RETROFLEX HOOK|V WITH RIGHT HOOK",
   "107b2 |MODIFIER LETTER SMALL CAPITAL Y",
   "107b3 MODIFIER LETTER |GLOTTAL STOP WITH STROKE|REVERSED GLOTTAL STOP WITH STROKE",
   "107b5 MODIFIER LETTER |BILABIAL CLICK|DENTAL CLICK|LATERAL CLICK|ALVEOLAR CLICK",
   "107b9 MODIFIER LETTER |RETROFLEX CLICK WITH RETROFLEX HOOK|SMALL S WITH CURL",
   "10800 CYPRIOT SYLLABLE |A|E|I|O|U|JA",
   "10808 |CYPRIOT SYLLABLE JO",
   "1080a CYPRIOT SYLLABLE |KA|KE|KI|KO|KU|LA|LE|LI|LO|LU|MA|ME|MI|MO|MU|NA|NE|NI|NO|NU|PA",
   "1081f CYPRIOT SYLLABLE |PE|PI|PO|PU|RA|RE|RI|RO|RU|SA|SE|SI|SO|SU|TA|TE|TI|TO|TU|WA|WE|WI|WO",
   "10837 CYPRIOT SYLLABLE |XA|XE",
   "1083c |CYPRIOT SYLLABLE ZA",
   "1083f |CYPRIOT SYLLABLE ZO",
   "10840 IMPERIAL ARAMAIC LETTER |ALEPH|BETH|GIMEL|DALETH|HE|WAW|ZAYIN|HETH|TETH|YODH|KAPH",
   "1084b IMPERIAL ARAMAIC LETTER |LAMEDH|MEM|NUN|SAMEKH|AYIN|PE|SADHE|QOPH|RESH|SHIN|TAW",
   "10857 |IMPERIAL ARAMAIC SECTION SIGN",
   "10858 IMPERIAL ARAMAIC NUMBER |ONE|TWO|THREE|TEN|TWENTY|ONE HUNDRED|ONE THOUSAND|TEN THOUSAND",
   "10860 PALMYRENE LETTER |ALEPH|BETH|GIMEL|DALETH|HE|WAW|ZAYIN|HETH|TETH|YODH",
   "1086a PALMYRENE LETTER |KAPH|LAMEDH|MEM|FINAL NUN|NUN|SAMEKH|AYIN|PE|SADHE|QOPH|RESH|SHIN|TAW",
   "10877 PALMYRENE |LEFT-POINTING FLEURON|RIGHT-POINTING FLEURON",
   "10879 PALMYRENE NUMBER |ONE|TWO|THREE|FOUR|FIVE|TEN|TWENTY",
   "10880 NABATAEAN LETTER |FINAL ALEPH|ALEPH",
   "10882 NABATAEAN LETTER |FINAL BETH|BETH|GIMEL|DALETH|FINAL HE|HE|WAW|ZAYIN|HETH|TETH",
   "1088c NABATAEAN LETTER |FINAL YODH|YODH|FINAL KAPH|KAPH|FINAL LAMEDH|LAMEDH|FINAL MEM",
   "10893 NABATAEAN LETTER |MEM|FINAL NUN|NUN|SAMEKH|AYIN|PE|SADHE|QOPH|RESH|FINAL SHIN|SHIN|TAW",
   "108a7 NABATAEAN NUMBER |ONE|TWO|THREE|FOUR",
   "108ab NABATAEAN |CRUCIFORM NUMBER FOUR|NUMBER FIVE|NUMBER TEN|NUMBER TWENTY|NUMBER ONE HUNDRED",
   "108e0 HATRAN LETTER |ALEPH|BETH|GIMEL|DALETH-RESH",
   "108e4 HATRAN LETTER |HE|WAW|ZAYN|HETH|TETH|YODH|KAPH|LAMEDH|MEM|NUN|SAMEKH|AYN|PE|SADHE|QOPH",
   "108f4 HATRAN LETTER |SHIN|TAW",
   "108fb HATRAN NUMBER |ONE|FIVE|TEN|TWENTY|ONE HUNDRED",
   "10900 PHOENICIAN LETTER |ALF|BET|GAML|DELT|HE|WAU|ZAI|HET|TET|YOD|KAF|LAMD|MEM",
   "1090d PHOENICIAN LETTER |NUN|SEMK|AIN|PE|SADE|QOF|ROSH|SHIN|TAU",
   "10916 PHOENICIAN NUMBER |ONE|TEN|TWENTY|ONE HUNDRED|TWO|THREE",
   "1091f |PHOENICIAN WORD SEPARATOR",
   "10920 LYDIAN LETTER |A|B|G|D|E|V|I|Y|K|L|M|N|O|R|SS|T|U|F|Q|S|TT|AN|EN|LY|NN|C",
   "1093f |LYDIAN TRIANGULAR MARK",
   "10980 MEROITIC HIEROGLYPHIC LETTER |A|E|I|O|YA|WA|BA|BA-2|PA|MA|NA|NA-2|NE|NE-2",
   "1098e MEROITIC HIEROGLYPHIC LETTER |RA|RA-2|LA|KHA|HHA|SA|SA-2|SE|KA|QA|TA|TA-2|TE|TE-2|TO|DA",
   "1099e MEROITIC HIEROGLYPHIC SYMBOL |VIDJ|VIDJ-2",
   "109a0 MEROITIC CURSIVE LETTER |A|E|I|O|YA|WA|BA",
   "109a7 MEROITIC CURSIVE LETTER |PA|MA|NA|NE|RA|LA|KHA|HHA|SA|ARCHAIC SA|SE|KA|QA|TA|TE|TO|DA",
   "109bc MEROITIC CURSIVE |FRACTION ELEVEN TWELFTHS|FRACTION ONE HALF|LOGOGRAM RMT|LOGOGRAM IMN",
   "109c0 MEROITIC CURSIVE NUMBER |ONE|TWO|THREE|FOUR|FIVE|SIX|SEVEN|EIGHT",
   "109c8 MEROITIC CURSIVE NUMBER |NINE|TEN|TWENTY|THIRTY|FORTY|FIFTY|SIXTY|SEVENTY",
   "109d2 MEROITIC CURSIVE NUMBER |ONE HUNDRED|TWO HUNDRED|THREE HUNDRED|FOUR HUNDRED|FIVE HUNDRED",
   "109d7 MEROITIC CURSIVE NUMBER |SIX HUNDRED|SEVEN HUNDRED|EIGHT HUNDRED|NINE HUNDRED",
   "109db MEROITIC CURSIVE NUMBER |ONE THOUSAND|TWO THOUSAND|THREE THOUSAND|FOUR THOUSAND",
   "109df MEROITIC CURSIVE NUMBER |FIVE THOUSAND|SIX THOUSAND|SEVEN THOUSAND|EIGHT THOUSAND",
   "109e3 MEROITIC CURSIVE NUMBER |NINE THOUSAND|TEN THOUSAND|TWENTY THOUSAND|THIRTY THOUSAND",
   "109e7 MEROITIC CURSIVE NUMBER |FORTY THOUSAND|FIFTY THOUSAND|SIXTY THOUSAND|SEVENTY THOUSAND",
   "109eb MEROITIC CURSIVE NUMBER |EIGHTY THOUSAND|NINETY THOUSAND|ONE HUNDRED THOUSAND",
   "109ee MEROITIC CURSIVE NUMBER |TWO HUNDRED THOUSAND|THREE HUNDRED THOUSAND",
   "109f0 MEROITIC CURSIVE NUMBER |FOUR HUNDRED THOUSAND|FIVE HUNDRED THOUSAND",
   "109f2 MEROITIC CURSIVE NUMBER |SIX HUNDRED THOUSAND|SEVEN HUNDRED THOUSAND",
   "109f4 MEROITIC CURSIVE NUMBER |EIGHT HUNDRED THOUSAND|NINE HUNDRED THOUSAND",
   "109f6 MEROITIC CURSIVE FRACTION |ONE TWELFTH|TWO TWELFTHS",
   "109f8 MEROITIC CURSIVE FRACTION |THREE TWELFTHS|FOUR TWELFTHS|FIVE TWELFTHS|SIX TWELFTHS",
   "109fc MEROITIC CURSIVE FRACTION |SEVEN TWELFTHS|EIGHT TWELFTHS|NINE TWELFTHS|TEN TWELFTHS",
   "10a00 KHAROSHTHI |LETTER A|VOWEL SIGN I|VOWEL SIGN U|VOWEL SIGN VOCALIC R",
   "10a05 KHAROSHTHI VOWEL SIGN |E|O",
   "10a0c KHAROSHTHI |VOWEL LENGTH MARK|SIGN DOUBLE RING BELOW|SIGN ANUSVARA|SIGN VISARGA",
   "10a10 KHAROSHTHI LETTER |KA|KHA|GA|GHA",
   "10a15 KHAROSHTHI LETTER |CA|CHA|JA",
   "10a19 KHAROSHTHI LETTER |NYA|TTA|TTHA|DDA|DDHA|NNA|TA|THA|DA|DHA|NA",
   "10a24 KHAROSHTHI LETTER |PA|PHA|BA|BHA|MA|YA|RA|LA|VA|SHA|SSA|SA|ZA|HA|KKA|TTTHA|TTTA|VHA",
   "10a38 KHAROSHTHI SIGN |BAR ABOVE|CAUDA|DOT BELOW",
   "10a3f KHAROSHTHI |VIRAMA|DIGIT ONE|DIGIT TWO|DIGIT THREE|DIGIT FOUR|NUMBER TEN",
   "10a45 KHAROSHTHI |NUMBER TWENTY|NUMBER ONE HUNDRED|NUMBER ONE THOUSAND|FRACTION ONE HALF",
   "10a50 KHAROSHTHI PUNCTUATION |DOT|SMALL CIRCLE",
   "10a52 KHAROSHTHI PUNCTUATION |CIRCLE|CRESCENT BAR|MANGALAM|LOTUS|DANDA|DOUBLE DANDA|LINES",
   "10a60 OLD SOUTH ARABIAN LETTER |HE|LAMEDH|HETH|MEM|QOPH|WAW",
   "10a66 OLD SOUTH ARABIAN LETTER |SHIN|RESH|BETH|TAW|SAT|KAPH|NUN|KHETH|SADHE|SAMEKH|FE|ALEF|AYN",
   "10a73 OLD SOUTH ARABIAN LETTER |DHADHE|GIMEL|DALETH|GHAYN|TETH|ZAYN|DHALETH|YODH|THAW|THETH",
   "10a7d OLD SOUTH ARABIAN |NUMBER ONE|NUMBER FIFTY|NUMERIC INDICATOR",
   "10a80 OLD NORTH ARABIAN LETTER |HEH|LAM|HAH|MEEM|QAF|WAW|ES-2|REH|BEH|TEH|ES-1|KAF|NOON|KHAH",
   "10a8e OLD NORTH ARABIAN LETTER |SAD|ES-3|FEH|ALEF|AIN|DAD|GEEM|DAL|GHAIN|TAH|ZAIN|THAL|YEH",
   "10a9b OLD NORTH ARABIAN |LETTER THEH|LETTER ZAH|NUMBER ONE|NUMBER TEN|NUMBER TWENTY",
   "10ac0 MANICHAEAN LETTER |ALEPH|BETH|BHETH|GIMEL|GHIMEL|DALETH|HE|WAW",
   "10ac8 MANICHAEAN |SIGN UD|LETTER ZAYIN|LETTER ZHAYIN|LETTER JAYIN",
   "10acc MANICHAEAN LETTER |JHAYIN|HETH|TETH|YODH|KAPH|XAPH|KHAPH|LAMEDH|DHAMEDH|THAMEDH|MEM",
   "10ad7 MANICHAEAN LETTER |NUN|SAMEKH|AYIN|AAYIN|PE|FE|SADHE|QOPH|XOPH|QHOPH|RESH|SHIN|SSHIN|TAW",
   "10ae5 MANICHAEAN ABBREVIATION MARK |ABOVE|BELOW",
   "10aeb MANICHAEAN NUMBER |ONE|FIVE|TEN|TWENTY|ONE HUNDRED",
   "10af0 MANICHAEAN PUNCTUATION |STAR|FLEURON",
   "10af2 MANICHAEAN PUNCTUATION |DOUBLE DOT WITHIN DOT|DOT WITHIN DOT|DOT|TWO DOTS|LINE FILLER",
   "10b00 AVESTAN LETTER |A|AA|AO|AAO|AN|AAN|AE|AEE|E|EE|O|OO|I|II|U|UU",
   "10b10 AVESTAN LETTER |KE|XE|XYE|XVE|GE|GGE|GHE|CE|JE|TE|THE|DE|DHE|TTE|PE|FE|BE|BHE|NGE|NGYE",
   "10b24 AVESTAN LETTER |NGVE|NE|NYE|NNE|ME|HME|YYE|YE|VE|RE|LE|SE|ZE|SHE|ZHE|SHYE|SSHE|HE",
   "10b39 |AVESTAN ABBREVIATION MARK",
   "10b3a |TINY TWO DOTS OVER ONE DOT PUNCTUATION|SMALL TWO DOTS OVER ONE DOT PUNCTUATION",
   "10b3c LARGE |TWO DOTS OVER ONE DOT PUNCTUATION|ONE DOT OVER TWO DOTS PUNCTUATION",
   "10b3e LARGE |TWO RINGS OVER ONE RING PUNCTUATION|ONE RING OVER TWO RINGS PUNCTUATION",
   "10b40 INSCRIPTIONAL PARTHIAN LETTER |ALEPH|BETH|GIMEL|DALETH|HE|WAW|ZAYIN|HETH|TETH|YODH|KAPH",
   "10b4b INSCRIPTIONAL PARTHIAN LETTER |LAMEDH|MEM|NUN|SAMEKH|AYIN|PE|SADHE|QOPH|RESH|SHIN|TAW",
   "10b58 INSCRIPTIONAL PARTHIAN NUMBER |ONE|TWO|THREE|FOUR|TEN|TWENTY|ONE HUNDRED|ONE THOUSAND",
   "10b60 INSCRIPTIONAL PAHLAVI LETTER |ALEPH|BETH|GIMEL|DALETH|HE|WAW-AYIN-RESH|ZAYIN|HETH|TETH",
   "10b69 INSCRIPTIONAL PAHLAVI LETTER |YODH|KAPH|LAMEDH|MEM-QOPH|NUN|SAMEKH|PE|SADHE|SHIN|TAW",
   "10b78 INSCRIPTIONAL PAHLAVI NUMBER |ONE|TWO|THREE|FOUR|TEN|TWENTY|ONE HUNDRED|ONE THOUSAND",
   "10b80 PSALTER PAHLAVI LETTER |ALEPH|BETH|GIMEL|DALETH|HE|WAW-AYIN-RESH|ZAYIN|HETH|YODH",
   "10b89 PSALTER PAHLAVI LETTER |KAPH|LAMEDH|MEM-QOPH|NUN|SAMEKH|PE|SADHE|SHIN|TAW",
   "10b99 PSALTER PAHLAVI |SECTION MARK|TURNED SECTION MARK",
   "10b9b PSALTER PAHLAVI FOUR DOTS WITH |CROSS|DOT",
   "10ba9 PSALTER PAHLAVI NUMBER |ONE|TWO|THREE|FOUR|TEN|TWENTY|ONE HUNDRED",
   "10c00 OLD TURKIC LETTER |ORKHON A|YENISEI A|YENISEI AE|ORKHON I|YENISEI I|YENISEI E|ORKHON O",
   "10c07 OLD TURKIC LETTER |ORKHON OE|YENISEI OE|ORKHON AB|YENISEI AB|ORKHON AEB|YENISEI AEB",
   "10c0d OLD TURKIC LETTER |ORKHON AG|YENISEI AG|ORKHON AEG|YENISEI AEG|ORKHON AD|YENISEI AD",
   "10c13 OLD TURKIC LETTER |ORKHON AED|ORKHON EZ|YENISEI EZ|ORKHON AY|YENISEI AY|ORKHON AEY",
   "10c19 OLD TURKIC LETTER |YENISEI AEY|ORKHON AEK|YENISEI AEK|ORKHON OEK|YENISEI OEK|ORKHON AL",
   "10c1f OLD TURKIC LETTER |YENISEI AL|ORKHON AEL|ORKHON ELT|ORKHON EM|ORKHON AN|ORKHON AEN",
   "10c25 OLD TURKIC LETTER |YENISEI AEN|ORKHON ENT|YENISEI ENT|ORKHON ENC|YENISEI ENC|ORKHON ENY",
   "10c2b OLD TURKIC LETTER |YENISEI ENY|YENISEI ANG|ORKHON ENG|YENISEI AENG|ORKHON EP|ORKHON OP",
   "10c31 OLD TURKIC LETTER |ORKHON IC|ORKHON EC|YENISEI EC|ORKHON AQ|YENISEI AQ|ORKHON IQ",
   "10c37 OLD TURKIC LETTER |YENISEI IQ|ORKHON OQ|YENISEI OQ|ORKHON AR|YENISEI AR|ORKHON AER",
   "10c3d OLD TURKIC LETTER |ORKHON AS|ORKHON AES|ORKHON ASH|YENISEI ASH|ORKHON ESH|YENISEI ESH",
   "10c43 OLD TURKIC LETTER |ORKHON AT|YENISEI AT|ORKHON AET|YENISEI AET|ORKHON OT|ORKHON BASH",
   "10c80 OLD HUNGARIAN CAPITAL LETTER |A|AA|EB",
   "10c83 OLD HUNGARIAN CAPITAL LETTER |AMB|EC|ENC|ECS|ED|AND|E|CLOSE E|EE|EF|EG|EGY|EH|I|II|EJ",
   "10c93 OLD HUNGARIAN CAPITAL LETTER |EK|AK|UNK|EL|ELY|EM|EN|ENY|O|OO|NIKOLSBURG OE|RUDIMENTA OE",
   "10c9f OLD HUNGARIAN CAPITAL LETTER |OEE|EP|EMP|ER|SHORT ER|ES|ESZ|ET|ENT|ETY|ECH|U",
   "10cab OLD HUNGARIAN CAPITAL LETTER |UU|NIKOLSBURG UE|RUDIMENTA UE|EV|EZ|EZS|ENT-SHAPED SIGN|US",
   "10cc0 OLD HUNGARIAN SMALL LETTER |A|AA|EB|AMB|EC|ENC|ECS|ED|AND|E|CLOSE E|EE|EF|EG",
   "10cce OLD HUNGARIAN SMALL LETTER |EGY|EH|I|II|EJ|EK|AK|UNK|EL|ELY|EM|EN|ENY|O|OO|NIKOLSBURG OE",
   "10cde OLD HUNGARIAN SMALL LETTER |RUDIMENTA OE|OEE|EP|EMP|ER|SHORT ER|ES|ESZ|ET|ENT|ETY|ECH",
   "10cea OLD HUNGARIAN SMALL LETTER |U|UU|NIKOLSBURG UE|RUDIMENTA UE|EV|EZ|EZS|ENT-SHAPED SIGN|US",
   "10cfa OLD HUNGARIAN NUMBER |ONE|FIVE|TEN|FIFTY|ONE HUNDRED|ONE THOUSAND",
   "10d00 HANIFI ROHINGYA LETTER |A|BA|PA|TA|TTA|JA|CA|HA|KHA|FA|DA|DDA|RA",
   "10d0d HANIFI ROHINGYA LETTER |RRA|ZA|SA|SHA|KA|GA|LA|MA|NA|WA|KINNA WA|YA|KINNA YA|NGA|NYA|VA",
   "10d1d HANIFI ROHINGYA |VOWEL A|VOWEL I|VOWEL U|VOWEL E|VOWEL O|MARK SAKIN|MARK NA KHONNA",
   "10d24 HANIFI ROHINGYA SIGN |HARBAHAY|TAHALA|TANA|TASSI",
   "10d30 HANIFI ROHINGYA DIGIT |ZERO|ONE|TWO|THREE|FOUR|FIVE|SIX|SEVEN|EIGHT|NINE",
   "10e60 RUMI DIGIT |ONE|TWO|THREE|FOUR|FIVE|SIX|SEVEN|EIGHT|NINE",
   "10e69 RUMI NUMBER |TEN|TWENTY|THIRTY|FORTY|FIFTY|SIXTY|SEVENTY|EIGHTY|NINETY",
   "10e72 RUMI NUMBER |ONE HUNDRED|TWO HUNDRED|THREE HUNDRED|FOUR HUNDRED|FIVE HUNDRED",
   "10e77 RUMI NUMBER |SIX HUNDRED|SEVEN HUNDRED|EIGHT HUNDRED|NINE HUNDRED",
   "10e7b RUMI FRACTION |ONE HALF|ONE QUARTER|ONE THIRD|TWO THIRDS",
   "10e80 YEZIDI LETTER |ELIF|BE|PE|PHE|THE|SE|CIM|CHIM|CHHIM|HHA|XA|DAL",
   "10e8c YEZIDI LETTER |ZAL|RA|RHA|ZA|JA|SIN|SHIN|SAD|DAD|TA|ZE|EYN|XHEYN|FA|VA|VA ALTERNATE FORM",
   "10e9c YEZIDI LETTER |QAF|KAF|KHAF|GAF|LAM|MIM|NUN|UM|WAW|OW|EW|HAY|YOT|ET",
   "10eab YEZIDI |COMBINING HAMZA MARK|COMBINING MADDA MARK|HYPHENATION MARK",
   "10eb0 YEZIDI LETTER |LAM WITH DOT ABOVE|YOT WITH CIRCUMFLEX ABOVE",
   "10f00 OLD SOGDIAN LETTER |ALEPH|FINAL ALEPH|BETH|FINAL BETH",
   "10f04 OLD SOGDIAN LETTER |GIMEL|HE|FINAL HE|WAW|ZAYIN|HETH|YODH|KAPH|LAMEDH|MEM|NUN|FINAL NUN",
   "10f10 OLD SOGDIAN LETTER |FINAL NUN WITH VERTICAL TAIL|SAMEKH|AYIN|ALTERNATE AYIN|PE|SADHE",
   "10f16 OLD SOGDIAN LETTER FINAL |SADHE|SADHE WITH VERTICAL TAIL",
   "10f18 OLD SOGDIAN LETTER |RESH-AYIN-DALETH|SHIN|TAW|FINAL TAW|FINAL TAW WITH VERTICAL TAIL",
   "10f1d OLD SOGDIAN NUMBER |ONE|TWO|THREE|FOUR|FIVE|TEN|TWENTY|THIRTY|ONE HUNDRED",
   "10f26 OLD SOGDIAN |FRACTION ONE HALF|LIGATURE AYIN-DALETH",
   "10f30 SOGDIAN LETTER |ALEPH|BETH|GIMEL|HE|WAW|ZAYIN|HETH|YODH",
   "10f38 SOGDIAN LETTER |KAPH|LAMEDH|MEM|NUN|SAMEKH|AYIN|PE|SADHE|RESH-AYIN|SHIN|TAW|FETH|LESH",
   "10f45 SOGDIAN |INDEPENDENT SHIN|COMBINING DOT BELOW",
   "10f47 SOGDIAN COMBINING |TWO DOTS BELOW|DOT ABOVE|TWO DOTS ABOVE|CURVE ABOVE|CURVE BELOW",
   "10f4c SOGDIAN COMBINING |HOOK ABOVE|HOOK BELOW|LONG HOOK BELOW|RESH BELOW|STROKE BELOW",
   "10f51 SOGDIAN NUMBER |ONE|TEN|TWENTY|ONE HUNDRED",
   "10f55 SOGDIAN PUNCTUATION TWO VERTICAL |BARS|BARS WITH DOTS",
   "10f57 SOGDIAN PUNCTUATION |CIRCLE WITH DOT|TWO CIRCLES WITH DOTS|HALF CIRCLE WITH DOT",
   "10f70 OLD UYGHUR LETTER |ALEPH|BETH|GIMEL-HETH|WAW|ZAYIN|FINAL HETH",
   "10f76 OLD UYGHUR LETTER |YODH|KAPH|LAMEDH|MEM|NUN|SAMEKH|PE|SADHE|RESH|SHIN|TAW|LESH",
   "10f82 OLD UYGHUR COMBINING |DOT ABOVE|DOT BELOW|TWO DOTS ABOVE|TWO DOTS BELOW",
   "10f86 OLD UYGHUR PUNCTUATION |BAR|TWO BARS|TWO DOTS|FOUR DOTS",
   "10fb0 CHORASMIAN LETTER |ALEPH|SMALL ALEPH|BETH|GIMEL|DALETH|HE|WAW|CURLED WAW",
   "10fb8 CHORASMIAN LETTER |ZAYIN|HETH|YODH|KAPH|LAMEDH|MEM|NUN|SAMEKH|AYIN|PE|RESH|SHIN|TAW",
   "10fc5 CHORASMIAN NUMBER |ONE|TWO|THREE|FOUR|TEN|TWENTY|ONE HUNDRED",
   "10fe0 ELYMAIC LETTER |ALEPH|BETH|GIMEL|DALETH|HE|WAW|ZAYIN|HETH",
   "10fe8 ELYMAIC LETTER |TETH|YODH|KAPH|LAMEDH|MEM|NUN|SAMEKH|AYIN|PE|SADHE|QOPH|RESH|SHIN|TAW",
   "10ff6 |ELYMAIC LIGATURE ZAYIN-YODH",
   "11000 BRAHMI SIGN |CANDRABINDU|ANUSVARA|VISARGA|JIHVAMULIYA|UPADHMANIYA",
   "11005 BRAHMI LETTER |A|AA|I|II|U|UU|VOCALIC R|VOCALIC RR|VOCALIC L|VOCALIC LL|E|AI|O|AU|KA|KHA",
   "11015 BRAHMI LETTER |GA|GHA|NGA|CA|CHA|JA|JHA|NYA|TTA|TTHA|DDA|DDHA|NNA|TA|THA|DA|DHA|NA|PA",
   "11028 BRAHMI LETTER |PHA|BA|BHA|MA|YA|RA|LA|VA|SHA|SSA|SA|HA|LLA|OLD TAMIL LLLA|OLD TAMIL RRA",
   "11037 BRAHMI |LETTER OLD TAMIL NNNA|VOWEL SIGN AA|VOWEL SIGN BHATTIPROLU AA",
   "1103a BRAHMI VOWEL SIGN |I|II|U|UU|VOCALIC R|VOCALIC RR|VOCALIC L|VOCALIC LL|E|AI|O|AU",
   "11046 BRAHMI |VIRAMA|DANDA|DOUBLE DANDA",
   "11049 BRAHMI PUNCTUATION |DOT|DOUBLE DOT|LINE|CRESCENT BAR|LOTUS",
   "11052 BRAHMI NUMBER |ONE|TWO|THREE|FOUR|FIVE|SIX|SEVEN|EIGHT|NINE|TEN|TWENTY",
   "1105d BRAHMI NUMBER |THIRTY|FORTY|FIFTY|SIXTY|SEVENTY|EIGHTY|NINETY|ONE HUNDRED|ONE THOUSAND",
   "11066 BRAHMI DIGIT |ZERO|ONE|TWO|THREE|FOUR|FIVE|SIX|SEVEN|EIGHT|NINE",
   "11070 BRAHMI |SIGN OLD TAMIL VIRAMA|LETTER OLD TAMIL SHORT E|LETTER OLD TAMIL SHORT O",
   "11073 BRAHMI |VOWEL SIGN OLD TAMIL SHORT E|VOWEL SIGN OLD TAMIL SHORT O|LETTER OLD TAMIL LLA",
   "1107f |BRAHMI NUMBER JOINER",
   "11080 KAITHI |SIGN CANDRABINDU|SIGN ANUSVARA|SIGN VISARGA|LETTER A|LETTER AA|LETTER I",
   "11086 KAITHI LETTER |II|U|UU|E|AI|O|AU|KA|KHA|GA|GHA|NGA|CA|CHA|JA|JHA|NYA|TTA|TTHA|DDA|DDDHA",
   "1109b KAITHI LETTER |DDHA|RHA|NNA|TA|THA|DA|DHA|NA|PA|PHA|BA|BHA|MA|YA|RA|LA|VA|SHA|SSA|SA|HA",
   "110b0 KAITHI VOWEL SIGN |AA|I|II|U|UU|E|AI|O|AU",
   "110b9 KAITHI |SIGN VIRAMA|SIGN NUKTA|ABBREVIATION SIGN|ENUMERATION SIGN|NUMBER SIGN",
   "110be KAITHI |SECTION MARK|DOUBLE SECTION MARK|DANDA|DOUBLE DANDA|VOWEL SIGN VOCALIC R",
   "110cd |KAITHI NUMBER SIGN ABOVE",
   "110d0 SORA SOMPENG LETTER |SAH|TAH|BAH|CAH|DAH|GAH|MAH|NGAH",
   "110d8 SORA SOMPENG LETTER |LAH|NAH|VAH|PAH|YAH|RAH|HAH|KAH|JAH|NYAH|AH|EEH|IH|UH|OH|EH|MAE",
   "110f0 SORA SOMPENG DIGIT |ZERO|ONE|TWO|THREE|FOUR|FIVE|SIX|SEVEN|EIGHT|NINE",
   "11100 CHAKMA |SIGN CANDRABINDU|SIGN ANUSVARA|SIGN VISARGA|LETTER AA|LETTER I|LETTER U|LETTER E",
   "11107 CHAKMA LETTER |KAA|KHAA|GAA|GHAA|NGAA|CAA|CHAA|JAA|JHAA|NYAA|TTAA|TTHAA|DDAA|DDHAA|NNAA",
   "11116 CHAKMA LETTER |TAA|THAA|DAA|DHAA|NAA|PAA|PHAA|BAA|BHAA|MAA|YYAA|YAA|RAA|LAA|WAA|SAA|HAA",
   "11127 CHAKMA VOWEL SIGN |A|I|II|U|UU|E|AI|O|AU|OI",
   "11131 CHAKMA |O MARK|AU MARK|VIRAMA|MAAYYAA",
   "11136 CHAKMA DIGIT |ZERO|ONE|TWO|THREE|FOUR|FIVE|SIX|SEVEN|EIGHT|NINE",
   "11140 CHAKMA |SECTION MARK|DANDA|DOUBLE DANDA|QUESTION MARK|LETTER LHAA",
   "11145 CHAKMA |VOWEL SIGN AA|VOWEL SIGN EI|LETTER VAA",
   "11150 MAHAJANI LETTER |A|I|U|E|O|KA|KHA|GA|GHA|CA|CHA|JA|JHA|NYA|TTA",
   "1115f MAHAJANI LETTER |TTHA|DDA|DDHA|NNA|TA|THA|DA|DHA|NA|PA|PHA|BA|BHA|MA|RA|LA|VA|SA|HA|RRA",
   "11173 MAHAJANI |SIGN NUKTA|ABBREVIATION SIGN|SECTION MARK|LIGATURE SHRI",
   "11180 SHARADA SIGN |CANDRABINDU|ANUSVARA|VISARGA",
   "11183 SHARADA LETTER |A|AA|I|II|U|UU|VOCALIC R|VOCALIC RR|VOCALIC L|VOCALIC LL|E|AI|O",
   "11190 SHARADA LETTER |AU|KA|KHA|GA|GHA|NGA|CA|CHA|JA|JHA|NYA|TTA|TTHA|DDA",
   "1119e SHARADA LETTER |DDHA|NNA|TA|THA|DA|DHA|NA|PA|PHA|BA|BHA|MA|YA|RA|LA|LLA|VA|SHA|SSA|SA|HA",
   "111b3 SHARADA VOWEL SIGN |AA|I|II|U|UU|VOCALIC R|VOCALIC RR|VOCALIC L|VOCALIC LL|E|AI|O|AU",
   "111c0 SHARADA SIGN |VIRAMA|AVAGRAHA|JIHVAMULIYA|UPADHMANIYA",
   "111c4 SHARADA |OM|DANDA|DOUBLE DANDA|ABBREVIATION SIGN",
   "111c8 SHARADA |SEPARATOR|SANDHI MARK|SIGN NUKTA|VOWEL MODIFIER MARK|EXTRA SHORT VOWEL MARK",
   "111cd SHARADA |SUTRA MARK|VOWEL SIGN PRISHTHAMATRA E|SIGN INVERTED CANDRABINDU",
   "111d0 SHARADA DIGIT |ZERO|ONE|TWO|THREE|FOUR|FIVE|SIX|SEVEN|EIGHT|NINE",
   "111da SHARADA |EKAM|SIGN SIDDHAM|HEADSTROKE|CONTINUATION SIGN|SECTION MARK-1|SECTION MARK-2",
   "111e1 SINHALA ARCHAIC DIGIT |ONE|TWO|THREE|FOUR|FIVE|SIX|SEVEN|EIGHT|NINE",
   "111ea SINHALA ARCHAIC NUMBER |TEN|TWENTY|THIRTY|FORTY|FIFTY|SIXTY|SEVENTY|EIGHTY|NINETY",
   "111f3 SINHALA ARCHAIC NUMBER ONE |HUNDRED|THOUSAND",
   "11200 KHOJKI LETTER |A|AA|I|U|E|AI|O|AU|KA|KHA|GA|GGA|GHA|NGA|CA|CHA|JA|JJA",
   "11213 KHOJKI LETTER |NYA|TTA|TTHA|DDA",
   "11217 KHOJKI LETTER |DDHA|NNA|TA|THA|DA|DDDA|DHA|NA|PA|PHA|BA|BBA|BHA|MA|YA|RA|LA|VA|SA|HA|LLA",
   "1122c KHOJKI VOWEL SIGN |AA|I|II|U|E|AI|O|AU",
   "11234 KHOJKI |SIGN ANUSVARA|SIGN VIRAMA|SIGN NUKTA|SIGN SHADDA|DANDA|DOUBLE DANDA",
   "1123a KHOJKI |WORD SEPARATOR|SECTION MARK|DOUBLE SECTION MARK|ABBREVIATION SIGN|SIGN SUKUN",
   "11280 MULTANI LETTER |A|I|U|E|KA|KHA|GA",
   "11288 |MULTANI LETTER GHA",
   "1128a MULTANI LETTER |CA|CHA|JA|JJA",
   "1128f MULTANI LETTER |NYA|TTA|TTHA|DDA|DDDA|DDHA|NNA|TA|THA|DA|DHA|NA|PA|PHA|BA",
   "1129f MULTANI LETTER |BHA|MA|YA|RA|LA|VA|SA|HA|RRA|RHA",
   "112a9 |MULTANI SECTION MARK",
   "112b0 KHUDAWADI LETTER |A|AA|I|II|U|UU|E|AI|O|AU|KA|KHA|GA|GGA|GHA|NGA|CA",
   "112c1 KHUDAWADI LETTER |CHA|JA|JJA|JHA|NYA|TTA|TTHA|DDA|DDDA|RRA|DDHA|NNA|TA|THA|DA",
   "112d0 KHUDAWADI LETTER |DHA|NA|PA|PHA|BA|BBA|BHA|MA|YA|RA|LA|VA|SHA|SA|HA",
   "112df |KHUDAWADI SIGN ANUSVARA",
   "112e0 KHUDAWADI VOWEL SIGN |AA|I|II|U|UU|E|AI|O|AU",
   "112e9 KHUDAWADI SIGN |NUKTA|VIRAMA",
   "112f0 KHUDAWADI DIGIT |ZERO|ONE|TWO|THREE|FOUR|FIVE|SIX|SEVEN|EIGHT|NINE",
   "11300 GRANTHA SIGN |COMBINING ANUSVARA ABOVE|CANDRABINDU|ANUSVARA|VISARGA",
   "11305 GRANTHA LETTER |A|AA|I|II|U|UU|VOCALIC R|VOCALIC L",
   "1130f GRANTHA LETTER |EE|AI",
   "11313 GRANTHA LETTER |OO|AU|KA",
   "11316 GRANTHA LETTER |KHA|GA|GHA|NGA|CA|CHA|JA|JHA|NYA|TTA|TTHA|DDA|DDHA|NNA|TA|THA|DA|DHA|NA",
   "1132a GRANTHA LETTER |PA|PHA|BA|BHA|MA|YA|RA",
   "11332 GRANTHA LETTER |LA|LLA",
   "11335 GRANTHA LETTER |VA|SHA|SSA|SA|HA",
   "1133b |COMBINING BINDU BELOW|GRANTHA SIGN NUKTA|GRANTHA SIGN AVAGRAHA",
   "1133e GRANTHA VOWEL SIGN |AA|I|II|U|UU|VOCALIC R|VOCALIC RR",
   "11347 GRANTHA VOWEL SIGN |EE|AI",
   "1134b GRANTHA |VOWEL SIGN OO|VOWEL SIGN AU|SIGN VIRAMA",
   "11350 |GRANTHA OM",
   "11357 |GRANTHA AU LENGTH MARK",
   "1135d GRANTHA |SIGN PLUTA|LETTER VEDIC ANUSVARA|LETTER VEDIC DOUBLE ANUSVARA",
   "11360 GRANTHA |LETTER VOCALIC RR|LETTER VOCALIC LL|VOWEL SIGN VOCALIC L|VOWEL SIGN VOCALIC LL",
   "11366 COMBINING GRANTHA DIGIT |ZERO|ONE|TWO|THREE|FOUR|FIVE|SIX",
   "11370 COMBINING GRANTHA LETTER |A|KA|NA|VI|PA",
   "11400 NEWA LETTER |A|AA|I|II|U|UU|VOCALIC R|VOCALIC RR|VOCALIC L|VOCALIC LL|E|AI|O|AU",
   "1140e NEWA LETTER |KA|KHA|GA|GHA|NGA|NGHA|CA|CHA|JA|JHA|NYA|NYHA|TTA|TTHA|DDA|DDHA|NNA|TA",
   "11420 NEWA LETTER |THA|DA|DHA|NA|NHA|PA|PHA|BA|BHA|MA|MHA|YA|RA|RHA|LA|LHA|WA|SHA|SSA|SA|HA",
   "11435 NEWA VOWEL SIGN |AA|I|II|U|UU|VOCALIC R|VOCALIC RR|VOCALIC L|VOCALIC LL|E|AI|O|AU",
   "11442 NEWA SIGN |VIRAMA|CANDRABINDU|ANUSVARA|VISARGA|NUKTA|AVAGRAHA|FINAL ANUSVARA",
   "11449 NEWA |OM|SIDDHI|DANDA|DOUBLE DANDA|COMMA|GAP FILLER|ABBREVIATION SIGN",
   "11450 NEWA DIGIT |ZERO|ONE|TWO|THREE|FOUR|FIVE|SIX|SEVEN|EIGHT|NINE",
   "1145a NEWA |DOUBLE COMMA|PLACEHOLDER MARK",
   "1145d NEWA |INSERTION SIGN|SANDHI MARK|LETTER VEDIC ANUSVARA|SIGN JIHVAMULIYA|SIGN UPADHMANIYA",
   "11480 |TIRHUTA ANJI",
   "11481 TIRHUTA LETTER |A|AA|I|II|U|UU|VOCALIC R|VOCALIC RR|VOCALIC L",
   "1148a TIRHUTA LETTER |VOCALIC LL|E|AI|O|AU|KA|KHA|GA|GHA|NGA|CA|CHA|JA|JHA|NYA|TTA|TTHA|DDA",
   "1149c TIRHUTA LETTER |DDHA|NNA|TA|THA|DA|DHA|NA|PA|PHA|BA|BHA|MA|YA|RA|LA|VA|SHA|SSA|SA|HA",
   "114b0 TIRHUTA VOWEL SIGN |AA|I|II|U|UU|VOCALIC R|VOCALIC RR|VOCALIC L|VOCALIC LL|E|SHORT E|AI",
   "114bc TIRHUTA |VOWEL SIGN O|VOWEL SIGN SHORT O|VOWEL SIGN AU|SIGN CANDRABINDU|SIGN ANUSVARA",
   "114c1 TIRHUTA |SIGN VISARGA|SIGN VIRAMA|SIGN NUKTA|SIGN AVAGRAHA|GVANG|ABBREVIATION SIGN|OM",
   "114d0 TIRHUTA DIGIT |ZERO|ONE|TWO|THREE|FOUR|FIVE|SIX|SEVEN|EIGHT|NINE",
   "11580 SIDDHAM LETTER |A|AA|I|II|U|UU|VOCALIC R|VOCALIC RR|VOCALIC L|VOCALIC LL",
   "1158a SIDDHAM LETTER |E|AI|O|AU|KA|KHA|GA|GHA|NGA|CA|CHA|JA|JHA|NYA|TTA|TTHA|DDA|DDHA|NNA",
   "1159d SIDDHAM LETTER |TA|THA|DA|DHA|NA|PA|PHA|BA|BHA|MA|YA|RA|LA|VA|SHA|SSA|SA|HA",
   "115af SIDDHAM VOWEL SIGN |AA|I|II|U|UU|VOCALIC R|VOCALIC RR",
   "115b8 SIDDHAM VOWEL SIGN |E|AI|O|AU",
   "115bc SIDDHAM SIGN |CANDRABINDU|ANUSVARA|VISARGA|VIRAMA|NUKTA|SIDDHAM",
   "115c2 SIDDHAM |DANDA|DOUBLE DANDA|SEPARATOR DOT|SEPARATOR BAR",
   "115c6 SIDDHAM |REPETITION MARK-1|REPETITION MARK-2|REPETITION MARK-3|END OF TEXT MARK",
   "115ca SIDDHAM SECTION MARK WITH TRIDENT AND |U-SHAPED ORNAMENTS|DOTTED CRESCENTS",
   "115cc SIDDHAM SECTION MARK WITH RAYS AND DOTTED |CRESCENTS|DOUBLE CRESCENTS|TRIPLE CRESCENTS",
   "115cf SIDDHAM SECTION MARK |DOUBLE RING|DOUBLE RING WITH RAYS|WITH DOUBLE CRESCENTS",
   "115d2 SIDDHAM SECTION MARK WITH |TRIPLE CRESCENTS|QUADRUPLE CRESCENTS|SEPTUPLE CRESCENTS",
   "115d5 SIDDHAM SECTION MARK WITH CIRCLES AND |RAYS|TWO ENCLOSURES|FOUR ENCLOSURES",
   "115d8 SIDDHAM LETTER |THREE-CIRCLE ALTERNATE I|TWO-CIRCLE ALTERNATE I|TWO-CIRCLE ALTERNATE II",
   "115db SIDDHAM |LETTER ALTERNATE U|VOWEL SIGN ALTERNATE U|VOWEL SIGN ALTERNATE UU",
   "11600 MODI LETTER |A|AA|I|II|U|UU|VOCALIC R|VOCALIC RR|VOCALIC L|VOCALIC LL",
   "1160a MODI LETTER |E|AI|O|AU|KA|KHA|GA|GHA|NGA|CA|CHA|JA|JHA|NYA|TTA|TTHA|DDA|DDHA|NNA|TA",
   "1161e MODI LETTER |THA|DA|DHA|NA|PA|PHA|BA|BHA|MA|YA|RA|LA|VA|SHA|SSA|SA|HA|LLA",
   "11630 MODI VOWEL SIGN |AA|I|II|U|UU|VOCALIC R|VOCALIC RR|VOCALIC L|VOCALIC LL|E|AI|O|AU",
   "1163d MODI SIGN |ANUSVARA|VISARGA|VIRAMA|ARDHACANDRA",
   "11641 MODI |DANDA|DOUBLE DANDA|ABBREVIATION SIGN|SIGN HUVA",
   "11650 MODI DIGIT |ZERO|ONE|TWO|THREE|FOUR|FIVE|SIX|SEVEN|EIGHT|NINE",
   "11660 MONGOLIAN |BIRGA WITH ORNAMENT|ROTATED BIRGA|DOUBLE BIRGA WITH ORNAMENT",
   "11663 MONGOLIAN |TRIPLE BIRGA WITH ORNAMENT|BIRGA WITH DOUBLE ORNAMENT",
   "11665 MONGOLIAN |ROTATED BIRGA WITH ORNAMENT|ROTATED BIRGA WITH DOUBLE ORNAMENT|INVERTED BIRGA",
   "11668 MONGOLIAN |INVERTED BIRGA WITH DOUBLE ORNAMENT|SWIRL BIRGA|SWIRL BIRGA WITH ORNAMENT",
   "1166b MONGOLIAN |SWIRL BIRGA WITH DOUBLE ORNAMENT|TURNED SWIRL BIRGA WITH DOUBLE ORNAMENT",
   "11680 TAKRI LETTER |A|AA|I|II|U|UU|E|AI|O|AU|KA|KHA|GA|GHA|NGA|CA|CHA|JA|JHA|NYA|TTA|TTHA",
   "11696 TAKRI LETTER |DDA|DDHA|NNA|TA|THA|DA|DHA|NA|PA|PHA|BA|BHA|MA|YA|RA|LA|VA|SHA|SA|HA|RRA",
   "116ab TAKRI SIGN |ANUSVARA|VISARGA",
   "116ad TAKRI VOWEL SIGN |AA|I|II|U|UU|E|AI|O|AU",
   "116b6 TAKRI |SIGN VIRAMA|SIGN NUKTA|LETTER ARCHAIC KHA|ABBREVIATION SIGN",
   "116c0 TAKRI DIGIT |ZERO|ONE|TWO|THREE|FOUR|FIVE|SIX|SEVEN|EIGHT|NINE",
   "11700 AHOM LETTER |KA|KHA|NGA|NA|TA|ALTERNATE TA|PA|PHA|BA|MA|JA|CHA|THA|RA",
   "1170e AHOM LETTER |LA|SA|NYA|HA|A|DA|DHA|GA|ALTERNATE GA|GHA|BHA|JHA|ALTERNATE BA",
   "1171d AHOM CONSONANT SIGN MEDIAL |LA|RA|LIGATING RA",
   "11720 AHOM VOWEL SIGN |A|AA|I|II|U|UU|E|AW|O|AI|AM",
   "1172b |AHOM SIGN KILLER",
   "11730 AHOM DIGIT |ZERO|ONE|TWO|THREE|FOUR|FIVE|SIX|SEVEN|EIGHT|NINE",
   "1173a AHOM |NUMBER TEN|NUMBER TWENTY|SIGN SMALL SECTION|SIGN SECTION|SIGN RULAI|SYMBOL VI",
   "11740 AHOM LETTER |CA|TTA|TTHA|DDA|DDHA|NNA|LLA",
   "11800 DOGRA LETTER |A|AA|I|II|U|UU|E|AI|O|AU|KA|KHA|GA|GHA|NGA|CA|CHA|JA|JHA|NYA|TTA|TTHA|DDA",
   "11817 DOGRA LETTER |DDHA|NNA|TA|THA|DA|DHA|NA|PA|PHA|BA|BHA|MA|YA|RA|LA|VA|SHA|SSA|SA|HA|RRA",
   "1182c DOGRA VOWEL SIGN |AA|I|II|U|UU|VOCALIC R|VOCALIC RR|E|AI|O|AU",
   "11837 DOGRA |SIGN ANUSVARA|SIGN VISARGA|SIGN VIRAMA|SIGN NUKTA|ABBREVIATION SIGN",
   "118a0 WARANG CITI CAPITAL LETTER |NGAA|A|WI|YU|YA|YO|II|UU|E|O|ANG|GA|KO|ENY|YUJ|UC|ENN",
   "118b1 WARANG CITI CAPITAL LETTER |ODD|TTE|NUNG|DA|AT|AM|BU|PU|HIYO|HOLO|HORR|HAR|SSUU|SII|VIYO",
   "118c0 WARANG CITI SMALL LETTER |NGAA|A|WI|YU|YA|YO|II|UU|E|O|ANG|GA|KO|ENY|YUJ|UC|ENN",
   "118d1 WARANG CITI SMALL LETTER |ODD|TTE|NUNG|DA|AT|AM|BU|PU|HIYO|HOLO|HORR|HAR|SSUU|SII|VIYO",
   "118e0 WARANG CITI DIGIT |ZERO|ONE|TWO|THREE|FOUR|FIVE|SIX|SEVEN|EIGHT|NINE",
   "118ea WARANG CITI NUMBER |TEN|TWENTY|THIRTY|FORTY|FIFTY|SIXTY|SEVENTY|EIGHTY|NINETY",
   "118ff |WARANG CITI OM",
   "11900 DIVES AKURU LETTER |A|AA|I|II|U|UU|E",
   "11909 |DIVES AKURU LETTER O",
   "1190c DIVES AKURU LETTER |KA|KHA|GA|GHA|NGA|CA|CHA|JA",
   "11915 DIVES AKURU LETTER |NYA|TTA",
   "11918 DIVES AKURU LETTER |DDA|DDHA|NNA|TA",
   "1191c DIVES AKURU LETTER |THA|DA|DHA|NA|PA|PHA|BA|BHA|MA|YA|YYA|RA|LA|VA|SHA|SSA|SA|HA|LLA|ZA",
   "11930 DIVES AKURU VOWEL SIGN |AA|I|II|U|UU|E",
   "11937 DIVES AKURU VOWEL SIGN |AI|O",
   "1193b DIVES AKURU SIGN |ANUSVARA|CANDRABINDU|HALANTA",
   "1193e DIVES AKURU |VIRAMA|PREFIXED NASAL SIGN|MEDIAL YA",
   "11941 DIVES AKURU |INITIAL RA|MEDIAL RA|SIGN NUKTA|DOUBLE DANDA|GAP FILLER|END OF TEXT MARK",
   "11950 DIVES AKURU DIGIT |ZERO|ONE|TWO|THREE|FOUR|FIVE|SIX|SEVEN|EIGHT|NINE",
   "119a0 NANDINAGARI LETTER |A|AA|I|II|U|UU|VOCALIC R|VOCALIC RR",
   "119aa NANDINAGARI LETTER |E|AI|O|AU|KA|KHA|GA|GHA|NGA|CA|CHA|JA|JHA|NYA|TTA|TTHA|DDA|DDHA|NNA",
   "119bd NANDINAGARI LETTER |TA|THA|DA|DHA|NA|PA|PHA|BA|BHA|MA|YA|RA|LA|VA|SHA|SSA|SA|HA|LLA|RRA",
   "119d1 NANDINAGARI VOWEL SIGN |AA|I|II|U|UU|VOCALIC R|VOCALIC RR",
   "119da NANDINAGARI VOWEL SIGN |E|AI|O|AU",
   "119de NANDINAGARI SIGN |ANUSVARA|VISARGA|VIRAMA|AVAGRAHA|SIDDHAM",
   "119e3 NANDINAGARI |HEADSTROKE|VOWEL SIGN PRISHTHAMATRA E",
   "11a00 |ZANABAZAR SQUARE LETTER A",
   "11a01 ZANABAZAR SQUARE VOWEL SIGN |I|UE|U|E|OE|O|AI|AU|REVERSED I",
   "11a0a ZANABAZAR SQUARE |VOWEL LENGTH MARK|LETTER KA|LETTER KHA|LETTER GA|LETTER GHA",
   "11a0f ZANABAZAR SQUARE LETTER |NGA|CA|CHA|JA|NYA|TTA|TTHA|DDA|DDHA|NNA|TA|THA|DA|DHA|NA|PA|PHA",
   "11a20 ZANABAZAR SQUARE LETTER |BA|BHA|MA|TSA|TSHA|DZA|DZHA|ZHA|ZA|-A|YA|RA|LA|VA|SHA|SSA|SA|HA",
   "11a32 ZANABAZAR SQUARE |LETTER KSSA|FINAL CONSONANT MARK|SIGN VIRAMA|SIGN CANDRABINDU",
   "11a36 ZANABAZAR SQUARE SIGN |CANDRABINDU WITH ORNAMENT|CANDRA WITH ORNAMENT|ANUSVARA|VISARGA",
   "11a3a |ZANABAZAR SQUARE CLUSTER-INITIAL LETTER RA",
   "11a3b ZANABAZAR SQUARE CLUSTER-FINAL LETTER |YA|RA|LA|VA",
   "11a3f ZANABAZAR SQUARE |INITIAL HEAD MARK|CLOSING HEAD MARK|MARK TSHEG|MARK SHAD",
   "11a43 ZANABAZAR SQUARE |MARK DOUBLE SHAD|MARK LONG TSHEG|INITIAL DOUBLE-LINED HEAD MARK",
   "11a46 ZANABAZAR SQUARE |CLOSING DOUBLE-LINED HEAD MARK|SUBJOINER",
   "11a50 SOYOMBO |LETTER A|VOWEL SIGN I|VOWEL SIGN UE|VOWEL SIGN U|VOWEL SIGN E",
   "11a55 SOYOMBO VOWEL |SIGN O|SIGN OE|SIGN AI|SIGN AU|SIGN VOCALIC R|SIGN VOCALIC L|LENGTH MARK",
   "11a5c SOYOMBO LETTER |KA|KHA|GA|GHA|NGA|CA|CHA|JA|JHA|NYA|TTA|TTHA|DDA|DDHA|NNA|TA|THA|DA",
   "11a6e SOYOMBO LETTER |DHA|NA|PA|PHA|BA|BHA|MA|TSA|TSHA|DZA|ZHA|ZA|-A|YA|RA|LA|VA|SHA|SSA|SA|HA",
   "11a83 SOYOMBO |LETTER KSSA|SIGN JIHVAMULIYA|SIGN UPADHMANIYA",
   "11a86 SOYOMBO CLUSTER-INITIAL LETTER |RA|LA|SHA|SA",
   "11a8a SOYOMBO FINAL CONSONANT SIGN |G|K|NG|D|N|B|M|R|L|SH|S|-A",
   "11a96 SOYOMBO |SIGN ANUSVARA|SIGN VISARGA|GEMINATION MARK|SUBJOINER",
   "11a9a SOYOMBO MARK |TSHEG|SHAD|DOUBLE SHAD|PLUTA",
   "11a9e SOYOMBO HEAD MARK WITH MOON AND |SUN AND TRIPLE FLAME|SUN AND FLAME|SUN",
   "11aa1 SOYOMBO TERMINAL MARK-|1|2",
   "11ab0 CANADIAN SYLLABICS NATTILIK |HI|HII|HO|HOO|HA|HAA|SHRI|SHRII|SHRO|SHROO|SHRA|SHRAA",
   "11abc CANADIAN SYLLABICS |SPE|SPI|SPO|SPA",
   "11ac0 PAU CIN HAU LETTER |PA|KA|LA|MA|DA|ZA|VA|NGA|HA|GA|KHA|SA|BA|CA|TA|THA|NA|PHA|RA|FA",
   "11ad4 PAU CIN HAU LETTER |CHA|A|E|I|O|U|UA|IA|FINAL P|FINAL K|FINAL T|FINAL M|FINAL N|FINAL L",
   "11ae2 PAU CIN HAU |LETTER FINAL W|LETTER FINAL NG|LETTER FINAL Y|RISING TONE LONG",
   "11ae6 PAU CIN HAU |RISING TONE|SANDHI GLOTTAL STOP|RISING TONE LONG FINAL|RISING TONE FINAL",
   "11aea PAU CIN HAU SANDHI |GLOTTAL STOP FINAL|TONE LONG|TONE|TONE LONG FINAL|TONE FINAL",
   "11aef PAU CIN HAU |MID-LEVEL TONE|GLOTTAL STOP VARIANT|MID-LEVEL TONE LONG FINAL",
   "11af2 PAU CIN HAU |MID-LEVEL TONE FINAL|LOW-FALLING TONE LONG|LOW-FALLING TONE|GLOTTAL STOP",
   "11af6 PAU CIN HAU |LOW-FALLING TONE LONG FINAL|LOW-FALLING TONE FINAL|GLOTTAL STOP FINAL",
   "11c00 BHAIKSUKI LETTER |A|AA|I|II|U|UU|VOCALIC R|VOCALIC RR|VOCALIC L",
   "11c0a BHAIKSUKI LETTER |E|AI|O|AU|KA|KHA|GA|GHA|NGA|CA|CHA|JA|JHA|NYA|TTA|TTHA|DDA|DDHA",
   "11c1c BHAIKSUKI LETTER |NNA|TA|THA|DA|DHA|NA|PA|PHA|BA|BHA|MA|YA|RA|LA|VA|SHA|SSA|SA|HA",
   "11c2f BHAIKSUKI VOWEL SIGN |AA|I|II|U|UU|VOCALIC R|VOCALIC RR|VOCALIC L",
   "11c38 BHAIKSUKI VOWEL SIGN |E|AI|O|AU",
   "11c3c BHAIKSUKI SIGN |CANDRABINDU|ANUSVARA|VISARGA|VIRAMA|AVAGRAHA",
   "11c41 BHAIKSUKI |DANDA|DOUBLE DANDA|WORD SEPARATOR|GAP FILLER-1|GAP FILLER-2",
   "11c50 BHAIKSUKI DIGIT |ZERO|ONE|TWO|THREE|FOUR|FIVE|SIX|SEVEN|EIGHT|NINE",
   "11c5a BHAIKSUKI NUMBER |ONE|TWO|THREE|FOUR|FIVE|SIX|SEVEN",
   "11c61 BHAIKSUKI NUMBER |EIGHT|NINE|TEN|TWENTY|THIRTY|FORTY|FIFTY|SIXTY|SEVENTY|EIGHTY|NINETY",
   "11c6c |BHAIKSUKI HUNDREDS UNIT MARK",
   "11c70 MARCHEN |HEAD MARK|MARK SHAD",
   "11c72 MARCHEN LETTER |KA|KHA|GA|NGA|CA|CHA|JA|NYA|TA|THA",
   "11c7c MARCHEN LETTER |DA|NA|PA|PHA|BA|MA|TSA|TSHA|DZA|WA|ZHA|ZA|-A|YA|RA|LA|SHA|SA|HA|A",
   "11c92 MARCHEN SUBJOINED LETTER |KA|KHA|GA|NGA",
   "11c96 MARCHEN SUBJOINED LETTER |CA|CHA|JA|NYA|TA|THA|DA|NA|PA|PHA|BA|MA|TSA|TSHA|DZA|WA|ZHA|ZA",
   "11ca9 MARCHEN SUBJOINED LETTER |YA|RA|LA|SHA|SA|HA|A",
   "11cb0 MARCHEN VOWEL SIGN |AA|I|U|E|O",
   "11cb5 MARCHEN SIGN |ANUSVARA|CANDRABINDU",
   "11d00 MASARAM GONDI LETTER |A|AA|I|II|U|UU|E",
   "11d08 MASARAM GONDI LETTER |AI|O",
   "11d0b MASARAM GONDI LETTER |AU|KA|KHA",
   "11d0e MASARAM GONDI LETTER |GA|GHA|NGA|CA|CHA|JA|JHA|NYA|TTA|TTHA|DDA|DDHA|NNA|TA|THA|DA|DHA",
   "11d1f MASARAM GONDI LETTER |NA|PA|PHA|BA|BHA|MA|YA|RA|LA|VA|SHA|SSA|SA|HA|LLA|KSSA|JNYA|TRA",
   "11d31 MASARAM GONDI VOWEL SIGN |AA|I|II|U|UU|VOCALIC R",
   "11d3a |MASARAM GONDI VOWEL SIGN E",
   "11d3c MASARAM GONDI VOWEL SIGN |AI|O",
   "11d3f MASARAM GONDI |VOWEL SIGN AU|SIGN ANUSVARA",
   "11d41 MASARAM GONDI |SIGN VISARGA|SIGN NUKTA|SIGN CANDRA|SIGN HALANTA|VIRAMA|REPHA|RA-KARA",
   "11d50 MASARAM GONDI DIGIT |ZERO|ONE|TWO|THREE|FOUR|FIVE|SIX|SEVEN|EIGHT|NINE",
   "11d60 GUNJALA GONDI LETTER |A|AA|I|II|U|UU",
   "11d67 GUNJALA GONDI LETTER |EE|AI",
   "11d6a GUNJALA GONDI LETTER |OO|AU|YA|VA|BA|BHA|MA|KA|KHA|TA|THA|LA|GA|GHA",
   "11d78 GUNJALA GONDI LETTER |DA|DHA|NA|CA|CHA|TTA|TTHA|LLA|JA|JHA|DDA|DDHA|NGA|PA|PHA|HA|RA|SA",
   "11d8a GUNJALA GONDI VOWEL SIGN |AA|I|II|U|UU",
   "11d90 GUNJALA GONDI VOWEL SIGN |EE|AI",
   "11d93 GUNJALA GONDI |VOWEL SIGN OO|VOWEL SIGN AU|SIGN ANUSVARA|SIGN VISARGA|VIRAMA|OM",
   "11da0 GUNJALA GONDI DIGIT |ZERO|ONE|TWO|THREE|FOUR|FIVE|SIX|SEVEN|EIGHT|NINE",
   "11ee0 MAKASAR LETTER |KA|GA|NGA|PA|BA|MA|TA|DA|NA|CA|JA|NYA|YA|RA|LA|VA|SA|A",
   "11ef2 MAKASAR |ANGKA|VOWEL SIGN I",
   "11ef4 MAKASAR |VOWEL SIGN U|VOWEL SIGN E|VOWEL SIGN O|PASSIMBANG|END OF SECTION",
   "11fb0 |LISU LETTER YHA",
   "11fc0 TAMIL FRACTION ONE |THREE-HUNDRED-AND-TWENTIETH|ONE-HUNDRED-AND-SIXTIETH",
   "11fc2 TAMIL FRACTION ONE |EIGHTIETH|SIXTY-FOURTH|FORTIETH|THIRTY-SECOND",
   "11fc6 TAMIL FRACTION |THREE EIGHTIETHS|THREE SIXTY-FOURTHS|ONE TWENTIETH|ONE SIXTEENTH-1",
   "11fca TAMIL FRACTION |ONE SIXTEENTH-2|ONE TENTH|ONE EIGHTH|THREE TWENTIETHS|THREE SIXTEENTHS",
   "11fcf TAMIL FRACTION ONE |FIFTH|QUARTER|HALF-1|HALF-2",
   "11fd3 TAMIL |FRACTION THREE QUARTERS|FRACTION DOWNSCALING FACTOR KIIZH|SIGN NEL",
   "11fd6 TAMIL SIGN |CEVITU|AAZHAAKKU|UZHAKKU|MUUVUZHAKKU|KURUNI|PATHAKKU|MUKKURUNI|KAACU|PANAM",
   "11fdf TAMIL |SIGN PON|SIGN VARAAKAN|SIGN PAARAM|SIGN KUZHI|SIGN VELI|WET CULTIVATION SIGN",
   "11fe5 TAMIL |DRY CULTIVATION SIGN|LAND SIGN|SALT PAN SIGN|TRADITIONAL CREDIT SIGN",
   "11fe9 TAMIL |TRADITIONAL NUMBER SIGN|CURRENT SIGN|AND ODD SIGN|SPENT SIGN|TOTAL SIGN",
   "11fee TAMIL |IN POSSESSION SIGN|STARTING FROM SIGN|SIGN MUTHALIYA|SIGN VAKAIYARAA",
   "11fff |TAMIL PUNCTUATION END OF TEXT"]

end NextWord.Text.CharName
