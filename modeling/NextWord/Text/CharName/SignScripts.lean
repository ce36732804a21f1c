/-!
# Names of cuneiform, hieroglyphs and the scripts up to Tangut and Kana additions

Blocks of names of Unicode 14 in the order of their code points; the module on lookup says how a
block is written.
-/

namespace NextWord.Text.CharName

def signScripts : List String :=
  ["12000 CUNEIFORM SIGN |A|A TIMES A|A TIMES BAD|A TIMES GAN2 TENU",
   "12004 CUNEIFORM SIGN |A TIMES HA|A TIMES IGI|A TIMES LAGAR GUNU|A TIMES MUSH|A TIMES SAG|A2|AB",
   "1200b CUNEIFORM SIGN AB TIMES |ASH2|DUN3 GUNU|GAL|GAN2 TENU|HA|IGI GUNU|IMIN|LAGAB|SHESH",
   "12014 CUNEIFORM SIGN |AB TIMES U PLUS U PLUS U|AB GUNU|AB2",
   "12017 CUNEIFORM SIGN AB2 TIMES |BALAG|GAN2 TENU|ME PLUS EN|SHA3|TAK4",
   "1201c CUNEIFORM SIGN |AD|AK|AK TIMES ERIN2|AK TIMES SHITA PLUS GISH|AL",
   "12021 CUNEIFORM SIGN AL TIMES |AL|DIM2|GISH|HA|KAD3|KI|SHE|USH",
   "12029 CUNEIFORM SIGN |ALAN|ALEPH|AMAR|AMAR TIMES SHE|AN|AN OVER AN|AN THREE TIMES",
   "12030 CUNEIFORM SIGN AN PLUS NAGA |OPPOSING AN PLUS NAGA|SQUARED",
   "12032 CUNEIFORM SIGN |ANSHE|APIN|ARAD|ARAD TIMES KUR|ARKAB|ASAL2|ASH",
   "12039 CUNEIFORM SIGN ASH |ZIDA TENU|KABA TENU|OVER ASH TUG2 OVER TUG2 TUG2 OVER TUG2 PAP",
   "1203c CUNEIFORM SIGN ASH OVER ASH OVER |ASH|ASH CROSSING ASH OVER ASH OVER ASH",
   "1203e CUNEIFORM SIGN |ASH2|ASHGAB|BA|BAD|BAG3|BAHAR2|BAL|BAL OVER BAL|BALAG",
   "12047 CUNEIFORM SIGN |BAR|BARA2|BI|BI TIMES A|BI TIMES GAR|BI TIMES IGI GUNU|BU|BU OVER BU AB",
   "1204f CUNEIFORM SIGN |BU OVER BU UN|BU CROSSING BU|BULUG|BULUG OVER BULUG|BUR|BUR2|DA|DAG",
   "12057 CUNEIFORM SIGN DAG KISIM5 TIMES |A PLUS MASH|AMAR|BALAG|BI|GA|GA PLUS MASH|GI",
   "1205e CUNEIFORM SIGN DAG KISIM5 TIMES |GIR2|GUD|HA|IR|IR PLUS LU|KAK|LA|LU|LU PLUS MASH2",
   "12067 CUNEIFORM SIGN DAG KISIM5 TIMES |LUM|NE|PAP PLUS PAP|SI|TAK4|U2 PLUS GIR2|USH",
   "1206e CUNEIFORM SIGN |DAM|DAR|DARA3|DARA4|DI|DIB|DIM|DIM TIMES SHE",
   "12076 CUNEIFORM SIGN |DIM2|DIN|DIN KASKAL U GUNU DISH|DISH|DU|DU OVER DU|DU GUNU",
   "1207d CUNEIFORM SIGN |DU SHESHIG|DUB|DUB TIMES ESH2|DUB2|DUG|DUGUD|DUH|DUN|DUN3|DUN3 GUNU",
   "12087 CUNEIFORM SIGN |DUN3 GUNU GUNU|DUN4|DUR2|E|E TIMES PAP|E OVER E NUN OVER NUN|E2",
   "1208e CUNEIFORM SIGN E2 TIMES |A PLUS HA PLUS DA|GAR|MI|SAL|SHE|U",
   "12094 CUNEIFORM SIGN |EDIN|EGIR|EL|EN|EN TIMES GAN2|EN TIMES GAN2 TENU|EN TIMES ME",
   "1209b CUNEIFORM SIGN |EN CROSSING EN|EN OPPOSING EN|EN SQUARED|EREN|ERIN2|ESH2|EZEN",
   "120a2 CUNEIFORM SIGN EZEN TIMES |A|A PLUS LAL|A PLUS LAL TIMES LAL",
   "120a5 CUNEIFORM SIGN EZEN TIMES |AN|BAD|DUN3 GUNU|DUN3 GUNU GUNU|HA|HA GUNU|IGI GUNU",
   "120ac CUNEIFORM SIGN EZEN TIMES |KASKAL|KASKAL SQUARED|KU3|LA|LAL TIMES LAL|LI|LU|U2|UD",
   "120b5 CUNEIFORM SIGN |GA|GA GUNU|GA2|GA2 TIMES A PLUS DA PLUS HA",
   "120b9 CUNEIFORM SIGN GA2 TIMES |A PLUS HA|A PLUS IGI|AB2 TENU PLUS TAB|AN|ASH|ASH2 PLUS GAL",
   "120bf CUNEIFORM SIGN GA2 TIMES |BAD|BAR PLUS RA|BUR|BUR PLUS RA|DA|DI|DIM TIMES SHE",
   "120c6 CUNEIFORM SIGN GA2 TIMES |DUB|EL|EL PLUS LA|EN|EN TIMES GAN2 TENU|GAN2 TENU|GAR|GI|GI4",
   "120cf CUNEIFORM SIGN GA2 TIMES |GI4 PLUS A|GIR2 PLUS SU|HA PLUS LU PLUS ESH2|HAL|HAL PLUS LA",
   "120d4 CUNEIFORM SIGN GA2 TIMES |HI PLUS LI|HUB2|IGI GUNU|ISH PLUS HU PLUS ASH|KAK|KASKAL",
   "120da CUNEIFORM SIGN GA2 TIMES |KID|KID PLUS LAL|KU3 PLUS AN|LA|ME PLUS EN|MI|NUN|NUN OVER NUN",
   "120e2 CUNEIFORM SIGN GA2 TIMES |PA|SAL|SAR|SHE|SHE PLUS TUR|SHID|SUM|TAK4|U|UD|UD PLUS DU",
   "120ed CUNEIFORM SIGN |GA2 OVER GA2|GABA|GABA CROSSING GABA|GAD|GAD OVER GAD GAR OVER GAR|GAL",
   "120f3 CUNEIFORM SIGN |GAL GAD OVER GAD GAR OVER GAR|GALAM|GAM|GAN",
   "120f7 CUNEIFORM SIGN |GAN2|GAN2 TENU|GAN2 OVER GAN2|GAN2 CROSSING GAN2|GAR|GAR3|GASHAN",
   "120fe CUNEIFORM SIGN |GESHTIN|GESHTIN TIMES KUR|GI|GI TIMES E|GI TIMES U|GI CROSSING GI|GI4",
   "12105 CUNEIFORM SIGN |GI4 OVER GI4|GI4 CROSSING GI4|GIDIM|GIR2|GIR2 GUNU|GIR3",
   "1210b CUNEIFORM SIGN GIR3 TIMES |A PLUS IGI|GAN2 TENU|IGI|LU PLUS IGI|PA",
   "12110 CUNEIFORM SIGN |GISAL|GISH|GISH CROSSING GISH|GISH TIMES BAD|GISH TIMES TAK4",
   "12115 CUNEIFORM SIGN |GISH TENU|GU|GU CROSSING GU|GU2",
   "12119 CUNEIFORM SIGN GU2 TIMES |KAK|KAK TIMES IGI GUNU|NUN|SAL PLUS TUG2",
   "1211d CUNEIFORM SIGN |GU2 GUNU|GUD|GUD TIMES A PLUS KUR|GUD TIMES KUR|GUD OVER GUD LUGAL",
   "12122 CUNEIFORM SIGN |GUL|GUM|GUM TIMES SHE|GUR|GUR7|GURUN|GURUSH|HA|HA TENU|HA GUNU|HAL|HI",
   "1212e CUNEIFORM SIGN HI TIMES |ASH|ASH2|BAD|DISH|GAD|KIN|NUN|SHE|U",
   "12137 CUNEIFORM SIGN |HU|HUB2",
   "12139 CUNEIFORM SIGN HUB2 TIMES |AN|HAL|KASKAL|LISH|UD",
   "1213e CUNEIFORM SIGN |HUL2|I|I A|IB|IDIM|IDIM OVER IDIM BUR|IDIM OVER IDIM SQUARED|IG|IGI",
   "12147 CUNEIFORM SIGN IGI |DIB|RI|OVER IGI SHIR OVER SHIR UD OVER UD|GUNU",
   "1214b CUNEIFORM SIGN |IL|IL TIMES GAN2 TENU|IL2|IM",
   "1214f CUNEIFORM SIGN |IM TIMES TAK4|IM CROSSING IM|IM OPPOSING IM|IM SQUARED|IMIN|IN|IR|ISH|KA",
   "12158 CUNEIFORM SIGN KA TIMES |A|AD|AD PLUS KU3|ASH2|BAD|BALAG|BAR|BI|ERIN2|ESH2",
   "12162 CUNEIFORM SIGN KA TIMES |GA|GAL|GAN2 TENU|GAR|GAR PLUS SHA3 PLUS A|GI|GIR2|GISH PLUS SAR",
   "1216a CUNEIFORM SIGN KA TIMES |GISH CROSSING GISH|GU|GUR7|IGI|IM|KAK|KI|KID|LI|LU|ME",
   "12175 CUNEIFORM SIGN KA TIMES |ME PLUS DU|ME PLUS GI|ME PLUS TE|MI|MI PLUS NUNUZ|NE|NUN|PI|RU",
   "1217e CUNEIFORM SIGN KA TIMES |SA|SAR|SHA|SHE|SHID|SHU|SIG|SUHUR|TAR|U|U2|UD|UMUM TIMES PA|USH",
   "1218c CUNEIFORM SIGN |KA TIMES ZI|KA2|KA2 CROSSING KA2|KAB|KAD2|KAD3|KAD4|KAD5",
   "12194 CUNEIFORM SIGN |KAD5 OVER KAD5|KAK|KAK TIMES IGI GUNU|KAL|KAL TIMES BAD|KAL CROSSING KAL",
   "1219a CUNEIFORM SIGN |KAM2|KAM4|KASKAL|KASKAL LAGAB TIMES U OVER LAGAB TIMES U",
   "1219e |CUNEIFORM SIGN KASKAL OVER KASKAL LAGAB TIMES U OVER LAGAB TIMES U",
   "1219f CUNEIFORM SIGN |KESH2|KI|KI TIMES BAD|KI TIMES U|KI TIMES UD|KID|KIN|KISAL|KISH",
   "121a8 CUNEIFORM SIGN |KISIM5|KISIM5 OVER KISIM5|KU|KU OVER HI TIMES ASH2 KU OVER HI TIMES ASH2",
   "121ac CUNEIFORM SIGN |KU3|KU4|KU4 VARIANT FORM|KU7|KUL|KUL GUNU|KUN|KUR|KUR OPPOSING KUR",
   "121b5 CUNEIFORM SIGN |KUSHU2|KWU318|LA|LAGAB|LAGAB TIMES A|LAGAB TIMES A PLUS DA PLUS HA",
   "121bb CUNEIFORM SIGN LAGAB TIMES |A PLUS GAR|A PLUS LAL|AL|AN|ASH ZIDA TENU|BAD|BI",
   "121c2 CUNEIFORM SIGN LAGAB TIMES |DAR|EN|GA|GAR|GUD|GUD PLUS GUD|HA|HAL|HI TIMES NUN|IGI GUNU",
   "121cc CUNEIFORM SIGN LAGAB TIMES |IM|IM PLUS HA|IM PLUS LU|KI|KIN|KU3|KUL|KUL PLUS HI PLUS A",
   "121d4 CUNEIFORM SIGN LAGAB TIMES |LAGAB|LISH|LU|LUL|ME|ME PLUS EN|MUSH|NE|SHE PLUS SUM",
   "121dd CUNEIFORM SIGN LAGAB TIMES SHITA PLUS GISH |PLUS ERIN2|TENU",
   "121df CUNEIFORM SIGN LAGAB TIMES |SHU2|SHU2 PLUS SHU2|SUM|TAG|TAK4|TE PLUS A PLUS SU PLUS NA",
   "121e5 CUNEIFORM SIGN LAGAB TIMES |U|U PLUS A|U PLUS U PLUS U|U2 PLUS ASH|UD|USH",
   "121eb CUNEIFORM SIGN |LAGAB SQUARED|LAGAR|LAGAR TIMES SHE|LAGAR TIMES SHE PLUS SUM",
   "121ef CUNEIFORM SIGN |LAGAR GUNU|LAGAR GUNU OVER LAGAR GUNU SHE|LAHSHU",
   "121f2 CUNEIFORM SIGN |LAL|LAL TIMES LAL|LAM|LAM TIMES KUR|LAM TIMES KUR PLUS RU|LI|LIL|LIMMU2",
   "121fa CUNEIFORM SIGN |LISH|LU|LU TIMES BAD|LU2|LU2 TIMES AL|LU2 TIMES BAD|LU2 TIMES ESH2",
   "12201 CUNEIFORM SIGN LU2 TIMES |ESH2 TENU|GAN2 TENU|HI TIMES BAD|IM|KAD2|KAD3|KAD3 PLUS ASH",
   "12208 CUNEIFORM SIGN LU2 TIMES |KI|LA PLUS ASH|LAGAB|ME PLUS EN|NE|NU|SI PLUS ASH|SIK2 PLUS BU",
   "12210 CUNEIFORM SIGN LU2 |TIMES TUG2|TENU|CROSSING LU2|OPPOSING LU2|SQUARED|SHESHIG",
   "12216 CUNEIFORM SIGN |LU3|LUGAL|LUGAL OVER LUGAL|LUGAL OPPOSING LUGAL|LUGAL SHESHIG|LUH|LUL",
   "1221d CUNEIFORM SIGN |LUM|LUM OVER LUM|LUM OVER LUM GAR OVER GAR|MA|MA TIMES TAK4|MA GUNU",
   "12223 CUNEIFORM SIGN |MA2|MAH|MAR|MASH|MASH2|ME|MES|MI|MIN|MU|MU OVER MU|MUG",
   "1222f CUNEIFORM SIGN |MUG GUNU|MUNSUB|MURGU2|MUSH|MUSH TIMES A|MUSH TIMES KUR|MUSH TIMES ZA",
   "12236 CUNEIFORM SIGN |MUSH OVER MUSH|MUSH OVER MUSH TIMES A PLUS NA|MUSH CROSSING MUSH|MUSH3",
   "1223a CUNEIFORM SIGN MUSH3 |TIMES A|TIMES A PLUS DI|TIMES DI|GUNU",
   "1223e CUNEIFORM SIGN |NA|NA2|NAGA|NAGA INVERTED|NAGA TIMES SHU TENU|NAGA OPPOSING NAGA|NAGAR",
   "12245 CUNEIFORM SIGN |NAM NUTILLU|NAM|NAM2|NE|NE TIMES A|NE TIMES UD|NE SHESHIG|NI|NI TIMES E",
   "1224e CUNEIFORM SIGN |NI2|NIM|NIM TIMES GAN2 TENU|NIM TIMES GAR PLUS GAN2 TENU|NINDA2",
   "12253 CUNEIFORM SIGN NINDA2 TIMES |AN|ASH|ASH PLUS ASH|GUD|ME PLUS GAN2 TENU|NE|NUN|SHE",
   "1225b CUNEIFORM SIGN NINDA2 TIMES SHE PLUS |A AN|ASH|ASH PLUS ASH",
   "1225e CUNEIFORM SIGN |NINDA2 TIMES U2 PLUS ASH|NINDA2 TIMES USH|NISAG|NU|NU11|NUN",
   "12264 CUNEIFORM SIGN NUN LAGAR TIMES |GAR|MASH|SAL|SAL OVER NUN LAGAR TIMES SAL|USH",
   "12269 CUNEIFORM SIGN NUN |TENU|OVER NUN|CROSSING NUN|CROSSING NUN LAGAR OVER LAGAR",
   "1226d |CUNEIFORM SIGN NUNUZ",
   "1226e CUNEIFORM SIGN NUNUZ AB2 TIMES |ASHGAB|BI|DUG|GUD|IGI GUNU|KAD3|LA|NE|SILA3|U2",
   "12278 CUNEIFORM SIGN |NUNUZ KISIM5 TIMES BI|NUNUZ KISIM5 TIMES BI U|PA|PAD|PAN|PAP|PESH2|PI",
   "12280 CUNEIFORM SIGN PI TIMES |A|AB|BI|BU|E|I|IB|U|U2",
   "12289 CUNEIFORM SIGN |PI CROSSING PI|PIRIG|PIRIG TIMES KAL|PIRIG TIMES UD",
   "1228d CUNEIFORM SIGN |PIRIG TIMES ZA|PIRIG OPPOSING PIRIG|RA|RAB|RI|RU|SA|SAG NUTILLU|SAG",
   "12296 CUNEIFORM SIGN SAG TIMES |A|DU|DUB|HA|KAK|KUR|LUM|MI|NUN|SAL|SHID|TAB|U2|UB|UM|UR|USH",
   "122a7 CUNEIFORM SIGN |SAG OVER SAG|SAG GUNU|SAL|SAL LAGAB TIMES ASH2|SANGA2|SAR|SHA|SHA3",
   "122af CUNEIFORM SIGN SHA3 TIMES |A|BAD|GISH|NE|SHU2|TUR|U|U PLUS A",
   "122b7 CUNEIFORM SIGN |SHA6|SHAB6|SHAR2|SHE|SHE HU",
   "122bc CUNEIFORM SIGN SHE OVER SHE |GAD OVER GAD GAR OVER GAR|TAB OVER TAB GAR OVER GAR",
   "122be CUNEIFORM SIGN |SHEG9|SHEN|SHESH|SHESH2|SHESHLAM|SHID|SHID TIMES A|SHID TIMES IM|SHIM",
   "122c7 CUNEIFORM SIGN SHIM TIMES |A|BAL|BULUG|DIN|GAR|IGI|IGI GUNU|KUSHU2|LUL|MUG|SAL",
   "122d2 CUNEIFORM SIGN |SHINIG|SHIR|SHIR TENU|SHIR OVER SHIR BUR OVER BUR",
   "122d6 CUNEIFORM SIGN |SHITA|SHU|SHU OVER INVERTED SHU|SHU2|SHUBUR|SI|SI GUNU",
   "122dd CUNEIFORM SIGN |SIG|SIG4|SIG4 OVER SIG4 SHU2|SIK2|SILA3|SU|SU OVER SU|SUD",
   "122e5 CUNEIFORM SIGN |SUD2|SUHUR|SUM|SUMASH|SUR|SUR9|TA|TA ASTERISK|TA TIMES HI|TA TIMES MI",
   "122ef CUNEIFORM SIGN |TA GUNU|TAB|TAB OVER TAB NI OVER NI DISH OVER DISH|TAB SQUARED|TAG",
   "122f4 CUNEIFORM SIGN TAG TIMES |BI|GUD|SHE|SHU|TUG2|UD",
   "122fa CUNEIFORM SIGN |TAK4|TAR|TE|TE GUNU|TI|TI TENU|TIL|TIR|TIR TIMES TAK4",
   "12303 CUNEIFORM SIGN TIR OVER |TIR|TIR GAD OVER GAD GAR OVER GAR",
   "12305 CUNEIFORM SIGN |TU|TUG2|TUK|TUM|TUR|TUR OVER TUR ZA OVER ZA|U|U GUD|U U U",
   "1230e CUNEIFORM SIGN U OVER U |PA OVER PA GAR OVER GAR|SUR OVER SUR|U REVERSED OVER U REVERSED",
   "12311 CUNEIFORM SIGN |U2|UB|UD|UD KUSHU2|UD TIMES BAD|UD TIMES MI|UD TIMES U PLUS U PLUS U",
   "12318 CUNEIFORM SIGN UD |TIMES U PLUS U PLUS U GUNU|GUNU|SHESHIG|SHESHIG TIMES BAD",
   "1231c CUNEIFORM SIGN |UDUG|UM|UM TIMES LAGAB|UM TIMES ME PLUS DA",
   "12320 CUNEIFORM SIGN |UM TIMES SHA3|UM TIMES U|UMBIN|UMUM|UMUM TIMES KASKAL",
   "12325 CUNEIFORM SIGN |UMUM TIMES PA|UN|UN GUNU|UR|UR CROSSING UR|UR SHESHIG|UR2",
   "1232c CUNEIFORM SIGN UR2 TIMES |A PLUS HA|A PLUS NA|AL|HA|NUN|U2|U2 PLUS ASH|U2 PLUS BI",
   "12334 CUNEIFORM SIGN |UR4|URI|URI3|URU",
   "12338 CUNEIFORM SIGN URU TIMES |A|ASHGAB|BAR|DUN|GA|GAL|GAN2 TENU|GAR",
   "12340 CUNEIFORM SIGN URU TIMES |GU|HA|IGI|IM|ISH|KI|LUM|MIN|PA|SHE|SIG4|TU|U PLUS GUD|UD|URUDA",
   "1234f CUNEIFORM SIGN |URUDA|URUDA TIMES U|USH|USH TIMES A|USH TIMES KU",
   "12354 CUNEIFORM SIGN |USH TIMES KUR|USH TIMES TAK4|USHX|USH2|USHUMX|UTUKI|UZ3|UZ3 TIMES KASKAL",
   "1235c CUNEIFORM SIGN |UZU|ZA|ZA TENU|ZA SQUARED TIMES KUR|ZAG|ZAMX|ZE2|ZI|ZI OVER ZI",
   "12365 CUNEIFORM SIGN |ZI3|ZIB|ZIB KABA TENU|ZIG|ZIZ2|ZU|ZU5|ZU5 TIMES A|ZUBUR|ZUM|KAP ELAMITE",
   "12370 CUNEIFORM SIGN |AB TIMES NUN|AB2 TIMES A|AMAR TIMES KUG|DAG KISIM5 TIMES U2 PLUS MASH",
   "12374 CUNEIFORM SIGN |DAG3|DISH PLUS SHU|DUB TIMES SHE|EZEN TIMES GUD",
   "12378 CUNEIFORM SIGN |EZEN TIMES SHE|GA2 TIMES AN PLUS KAK PLUS A|GA2 TIMES ASH2|GE22|GIG|HUSH",
   "1237e CUNEIFORM SIGN KA TIMES |ANSHE|ASH3|GISH|GUD|HI TIMES ASH2|LUM|PA|SHUL|TU|UR2",
   "12388 CUNEIFORM SIGN |LAGAB TIMES GI|LU2 SHESHIG TIMES BAD",
   "1238a CUNEIFORM SIGN |LU2 TIMES ESH2 PLUS LAL|LU2 TIMES SHU|MESH|MUSH3 TIMES ZA|NA4|NIN",
   "12390 CUNEIFORM SIGN |NIN9|NINDA2 TIMES BAL|NINDA2 TIMES GI|NU11 ROTATED NINETY DEGREES",
   "12394 CUNEIFORM SIGN |PESH2 ASTERISK|PIR2|SAG TIMES IGI GUNU|TI2|UM TIMES ME|U U",
   "12400 CUNEIFORM NUMERIC SIGN |TWO ASH|THREE ASH|FOUR ASH|FIVE ASH|SIX ASH|SEVEN ASH|EIGHT ASH",
   "12407 CUNEIFORM NUMERIC SIGN |NINE ASH|THREE DISH|FOUR DISH|FIVE DISH|SIX DISH|SEVEN DISH",
   "1240d CUNEIFORM NUMERIC SIGN |EIGHT DISH|NINE DISH|FOUR U|FIVE U|SIX U|SEVEN U",
   "12413 CUNEIFORM NUMERIC SIGN |EIGHT U|NINE U|ONE GESH2|TWO GESH2|THREE GESH2|FOUR GESH2",
   "12419 CUNEIFORM NUMERIC SIGN |FIVE GESH2|SIX GESH2|SEVEN GESH2|EIGHT GESH2|NINE GESH2",
   "1241e CUNEIFORM NUMERIC SIGN |ONE GESHU|TWO GESHU|THREE GESHU|FOUR GESHU|FIVE GESHU|TWO SHAR2",
   "12424 CUNEIFORM NUMERIC SIGN |THREE SHAR2|THREE SHAR2 VARIANT FORM|FOUR SHAR2|FIVE SHAR2",
   "12428 CUNEIFORM NUMERIC SIGN |SIX SHAR2|SEVEN SHAR2|EIGHT SHAR2|NINE SHAR2|ONE SHARU|TWO SHARU",
   "1242e CUNEIFORM NUMERIC SIGN |THREE SHARU|THREE SHARU VARIANT FORM|FOUR SHARU|FIVE SHARU",
   "12432 CUNEIFORM NUMERIC SIGN SHAR2 TIMES GAL PLUS |DISH|MIN",
   "12434 CUNEIFORM NUMERIC SIGN |ONE BURU|TWO BURU|THREE BURU|THREE BURU VARIANT FORM|FOUR BURU",
   "12439 CUNEIFORM NUMERIC SIGN |FIVE BURU|THREE VARIANT FORM ESH16|THREE VARIANT FORM ESH21",
   "1243c CUNEIFORM NUMERIC SIGN FOUR VARIANT FORM |LIMMU|LIMMU4|LIMMU A|LIMMU B",
   "12440 |CUNEIFORM NUMERIC SIGN SIX VARIANT FORM ASH9",
   "12441 CUNEIFORM NUMERIC SIGN SEVEN VARIANT FORM |IMIN3|IMIN A|IMIN B",
   "12444 CUNEIFORM NUMERIC SIGN EIGHT VARIANT FORM |USSU|USSU3",
   "12446 CUNEIFORM NUMERIC SIGN NINE VARIANT FORM |ILIMMU|ILIMMU3|ILIMMU4|ILIMMU A",
   "1244a CUNEIFORM NUMERIC SIGN |TWO ASH TENU|THREE ASH TENU|FOUR ASH TENU|FIVE ASH TENU",
   "1244e CUNEIFORM NUMERIC SIGN |SIX ASH TENU|ONE BAN2|TWO BAN2|THREE BAN2|FOUR BAN2",
   "12453 CUNEIFORM NUMERIC SIGN |FOUR BAN2 VARIANT FORM|FIVE BAN2|FIVE BAN2 VARIANT FORM",
   "12456 CUNEIFORM NUMERIC SIGN |NIGIDAMIN|NIGIDAESH|ONE ESHE3|TWO ESHE3|ONE THIRD DISH",
   "1245b CUNEIFORM NUMERIC SIGN |TWO THIRDS DISH|FIVE SIXTHS DISH|ONE THIRD VARIANT FORM A",
   "1245e CUNEIFORM NUMERIC SIGN |TWO THIRDS VARIANT FORM A|ONE EIGHTH ASH|ONE QUARTER ASH",
   "12461 CUNEIFORM NUMERIC SIGN OLD ASSYRIAN ONE |SIXTH|QUARTER",
   "12463 CUNEIFORM NUMERIC SIGN ONE |QUARTER GUR|HALF GUR",
   "12465 CUNEIFORM NUMERIC SIGN ELAMITE |ONE THIRD|TWO THIRDS|FORTY|FIFTY",
   "12469 CUNEIFORM NUMERIC SIGN |FOUR U VARIANT FORM|FIVE U VARIANT FORM|SIX U VARIANT FORM",
   "1246c CUNEIFORM NUMERIC SIGN |SEVEN U VARIANT FORM|EIGHT U VARIANT FORM|NINE U VARIANT FORM",
   "12470 CUNEIFORM PUNCTUATION SIGN |OLD ASSYRIAN WORD DIVIDER|VERTICAL COLON",
   "12472 CUNEIFORM PUNCTUATION SIGN DIAGONAL |COLON|TRICOLON|QUADCOLON",
   "12480 CUNEIFORM SIGN |AB TIMES NUN TENU|AB TIMES SHU2|AD TIMES ESH2|BAD TIMES DISH TENU",
   "12484 CUNEIFORM SIGN |BAHAR2 TIMES AB2|BAHAR2 TIMES NI|BAHAR2 TIMES ZA|BU OVER BU TIMES NA2",
   "12488 CUNEIFORM SIGN |DA TIMES TAK4|DAG TIMES KUR|DIM TIMES IGI|DIM TIMES U U U|DIM2 TIMES UD",
   "1248d CUNEIFORM SIGN DUG TIMES |ANSHE|ASH|ASH AT LEFT|DIN|DUN|ERIN2|GA|GI|GIR2 GUNU|GISH",
   "12497 CUNEIFORM SIGN DUG TIMES |HA|HI|IGI GUNU|KASKAL|KUR|KUSHU2|KUSHU2 PLUS KASKAL|LAK-020",
   "1249f CUNEIFORM SIGN DUG TIMES |LAM|LAM TIMES KUR|LUH PLUS GISH|MASH|MES|MI|NI|PI|SHE|SI GUNU",
   "124a9 CUNEIFORM SIGN |E2 TIMES KUR|E2 TIMES PAP|ERIN2 X|ESH2 CROSSING ESH2",
   "124ad CUNEIFORM SIGN EZEN SHESHIG TIMES |ASH|HI|IGI GUNU|LA|LAL|ME|MES|SU",
   "124b5 |CUNEIFORM SIGN EZEN TIMES SU",
   "124b6 CUNEIFORM SIGN GA2 TIMES |BAHAR2|DIM GUNU|DUG TIMES IGI GUNU|DUG TIMES KASKAL|EREN",
   "124bb CUNEIFORM SIGN GA2 TIMES |GA|GAR PLUS DI|GAR PLUS NE|HA PLUS A|KUSHU2 PLUS KASKAL",
   "124c0 CUNEIFORM SIGN GA2 TIMES |LAM|LAM TIMES KUR|LUH|MUSH|NE|NE PLUS E2|NE PLUS GI|SHIM|ZIZ2",
   "124c9 |CUNEIFORM SIGN GABA ROTATED NINETY DEGREES",
   "124ca CUNEIFORM SIGN |GESHTIN TIMES U|GISH TIMES GISH CROSSING GISH|GU2 TIMES IGI GUNU",
   "124cd CUNEIFORM SIGN |GUD PLUS GISH TIMES TAK4|HA TENU GUNU|HI TIMES ASH OVER HI TIMES ASH",
   "124d0 CUNEIFORM SIGN KA TIMES |BU|KA|U U U|UR",
   "124d4 CUNEIFORM SIGN |LAGAB TIMES ZU OVER ZU|LAK-003|LAK-021|LAK-025",
   "124d8 CUNEIFORM SIGN LAK-|030|050|051|062|079 OVER LAK-079 GUNU|080|081 OVER LAK-081|092|130",
   "124e1 CUNEIFORM SIGN LAK-|142|210|219|220|225|228|238|265|266|343|347|348|383|384|390|441|449",
   "124f2 CUNEIFORM SIGN LAK-449 TIMES |GU|IGI|PAP PLUS LU3|PAP PLUS PAP PLUS LU3|U2 PLUS BA",
   "124f7 CUNEIFORM SIGN LAK-|450|457|470|483|490|492|493|495|550|608|617",
   "12502 CUNEIFORM SIGN LAK-617 TIMES |ASH|BAD|DUN3 GUNU GUNU|KU3|LA|TAR|TE|U2|UD|URUDA",
   "1250c CUNEIFORM SIGN LAK-|636|648|648 TIMES DUB|648 TIMES GA|648 TIMES IGI",
   "12511 CUNEIFORM SIGN LAK-648 TIMES |IGI GUNU|NI|PAP PLUS PAP PLUS LU3|SHESH PLUS KI|UD|URUDA",
   "12517 CUNEIFORM SIGN |LAK-724|LAK-749|LU2 GUNU TIMES ASH|LU2 TIMES DISH|LU2 TIMES HAL",
   "1251c CUNEIFORM SIGN |LU2 TIMES PAP|LU2 TIMES PAP PLUS PAP PLUS LU3|LU2 TIMES TAK4|MI PLUS ZA7",
   "12520 CUNEIFORM SIGN |MUSH OVER MUSH TIMES GA|MUSH OVER MUSH TIMES KAK|NINDA2 TIMES DIM GUNU",
   "12523 CUNEIFORM SIGN NINDA2 TIMES |GISH|GUL|HI|KESH2|LAK-050|MASH|PAP PLUS PAP|U|U PLUS U",
   "1252c CUNEIFORM SIGN |NINDA2 TIMES URUDA|SAG GUNU TIMES HA|SAG TIMES EN|SAG TIMES SHE AT LEFT",
   "12530 CUNEIFORM SIGN |SAG TIMES TAK4|SHA6 TENU|SHE OVER SHE|SHE PLUS HUB2|SHE PLUS NAM2",
   "12535 CUNEIFORM SIGN |SHE PLUS SAR|SHU2 PLUS DUG TIMES NI|SHU2 PLUS E2 TIMES AN|SI TIMES TAK4",
   "12539 CUNEIFORM SIGN |TAK4 PLUS SAG|TUM TIMES GAN2 TENU|TUM TIMES THREE DISH|UR2 INVERTED",
   "1253d CUNEIFORM SIGN |UR2 TIMES UD|URU TIMES DARA3|URU TIMES LAK-668",
   "12540 CUNEIFORM SIGN |URU TIMES LU3|ZA7|ZU OVER ZU PLUS SAR|ZU5 TIMES THREE DISH TENU",
   "12f90 CYPRO-MINOAN SIGN |CM001|CM002|CM004|CM005|CM006|CM007|CM008|CM009|CM010|CM011|CM012",
   "12f9b CYPRO-MINOAN SIGN |CM012B|CM013|CM015|CM017|CM019|CM021|CM023|CM024|CM025|CM026|CM027",
   "12fa6 CYPRO-MINOAN SIGN |CM028|CM029|CM030|CM033|CM034|CM035|CM036|CM037|CM038|CM039|CM040",
   "12fb1 CYPRO-MINOAN SIGN |CM041|CM044|CM046|CM047|CM049|CM050|CM051|CM052|CM053|CM054|CM055",
   "12fbc CYPRO-MINOAN SIGN |CM056|CM058|CM059|CM060|CM061|CM062|CM063|CM064|CM066|CM067|CM068",
   "12fc7 CYPRO-MINOAN SIGN |CM069|CM070|CM071|CM072|CM073|CM074|CM075|CM075B|CM076|CM078|CM079",
   "12fd2 CYPRO-MINOAN SIGN |CM080|CM081|CM082|CM083|CM084|CM085|CM086|CM087|CM088|CM089|CM090",
   "12fdd CYPRO-MINOAN SIGN |CM091|CM092|CM094|CM095|CM096|CM097|CM098|CM099|CM100|CM101|CM102",
   "12fe8 CYPRO-MINOAN SIGN |CM103|CM104|CM105|CM107|CM108|CM109|CM110|CM112|CM114|CM301|CM302",
   "13000 EGYPTIAN HIEROGLYPH |A001|A002|A003|A004|A005|A005A|A006|A006A|A006B|A007|A008|A009|A010",
   "1300d EGYPTIAN HIEROGLYPH |A011|A012|A013|A014|A014A|A015|A016|A017|A017A|A018|A019|A020|A021",
   "1301a EGYPTIAN HIEROGLYPH |A022|A023|A024|A025|A026|A027|A028|A029|A030|A031|A032|A032A|A033",
   "13027 EGYPTIAN HIEROGLYPH |A034|A035|A036|A037|A038|A039|A040|A040A|A041|A042|A042A|A043|A043A",
   "13034 EGYPTIAN HIEROGLYPH |A044|A045|A045A|A046|A047|A048|A049|A050|A051|A052|A053|A054|A055",
   "13041 EGYPTIAN HIEROGLYPH |A056|A057|A058|A059|A060|A061|A062|A063|A064|A065|A066",
   "1304c EGYPTIAN HIEROGLYPH |A067|A068|A069|A070|B001|B002|B003|B004|B005|B005A|B006|B007",
   "13058 EGYPTIAN HIEROGLYPH |B008|B009|C001|C002|C002A|C002B|C002C|C003|C004|C005|C006|C007|C008",
   "13065 EGYPTIAN HIEROGLYPH |C009|C010|C010A|C011|C012|C013|C014|C015|C016|C017|C018|C019",
   "13071 EGYPTIAN HIEROGLYPH |C020|C021|C022|C023|C024|D001|D002|D003|D004|D005|D006|D007|D008",
   "1307e EGYPTIAN HIEROGLYPH |D008A|D009|D010|D011|D012|D013|D014|D015|D016|D017|D018|D019",
   "1308a EGYPTIAN HIEROGLYPH |D020|D021|D022|D023|D024|D025|D026|D027|D027A|D028|D029|D030|D031",
   "13097 EGYPTIAN HIEROGLYPH |D031A|D032|D033|D034|D034A|D035|D036|D037|D038|D039|D040|D041|D042",
   "130a4 EGYPTIAN HIEROGLYPH |D043|D044|D045|D046|D046A|D047|D048|D048A|D049|D050|D050A|D050B",
   "130b0 EGYPTIAN HIEROGLYPH |D050C|D050D|D050E|D050F|D050G|D050H|D050I|D051|D052|D052A|D053|D054",
   "130bc EGYPTIAN HIEROGLYPH |D054A|D055|D056|D057|D058|D059|D060|D061|D062|D063|D064|D065|D066",
   "130c9 EGYPTIAN HIEROGLYPH |D067|D067A|D067B|D067C|D067D|D067E|D067F|D067G|D067H|E001|E002",
   "130d4 EGYPTIAN HIEROGLYPH |E003|E004|E005|E006|E007|E008|E008A|E009|E009A|E010|E011",
   "130df EGYPTIAN HIEROGLYPH |E012|E013|E014|E015|E016|E016A|E017|E017A|E018|E019|E020|E020A",
   "130eb EGYPTIAN HIEROGLYPH |E021|E022|E023|E024|E025|E026|E027|E028|E028A|E029|E030|E031|E032",
   "130f8 EGYPTIAN HIEROGLYPH |E033|E034|E034A|E036|E037|E038|F001|F001A|F002|F003|F004|F005|F006",
   "13105 EGYPTIAN HIEROGLYPH |F007|F008|F009|F010|F011|F012|F013|F013A|F014|F015|F016|F017|F018",
   "13112 EGYPTIAN HIEROGLYPH |F019|F020|F021|F021A|F022|F023|F024|F025|F026|F027|F028|F029|F030",
   "1311f EGYPTIAN HIEROGLYPH |F031|F031A|F032|F033|F034|F035|F036|F037|F037A|F038|F038A|F039",
   "1312b EGYPTIAN HIEROGLYPH |F040|F041|F042|F043|F044|F045|F045A|F046|F046A|F047|F047A|F048",
   "13137 EGYPTIAN HIEROGLYPH |F049|F050|F051|F051A|F051B|F051C|F052|F053|G001|G002|G003|G004|G005",
   "13144 EGYPTIAN HIEROGLYPH |G006|G006A|G007|G007A|G007B|G008|G009|G010|G011|G011A|G012|G013",
   "13150 EGYPTIAN HIEROGLYPH |G014|G015|G016|G017|G018|G019|G020|G020A|G021|G022|G023|G024|G025",
   "1315d EGYPTIAN HIEROGLYPH |G026|G026A|G027|G028|G029|G030|G031|G032|G033|G034|G035|G036|G036A",
   "1316a EGYPTIAN HIEROGLYPH |G037|G037A|G038|G039|G040|G041|G042|G043|G043A|G044|G045|G045A|G046",
   "13177 EGYPTIAN HIEROGLYPH |G047|G048|G049|G050|G051|G052|G053|G054|H001|H002|H003|H004",
   "13183 EGYPTIAN HIEROGLYPH |H005|H006|H006A|H007|H008|I001|I002|I003|I004|I005|I005A|I006|I007",
   "13190 EGYPTIAN HIEROGLYPH |I008|I009|I009A|I010|I010A|I011|I011A|I012|I013|I014|I015|K001|K002",
   "1319d EGYPTIAN HIEROGLYPH |K003|K004|K005|K006|K007|K008|L001|L002|L002A|L003|L004|L005|L006",
   "131aa EGYPTIAN HIEROGLYPH |L006A|L007|L008|M001|M001A|M001B|M002|M003|M003A|M004|M005|M006",
   "131b6 EGYPTIAN HIEROGLYPH |M007|M008|M009|M010|M010A|M011|M012|M012A|M012B|M012C|M012D|M012E",
   "131c2 EGYPTIAN HIEROGLYPH |M012F|M012G|M012H|M013|M014|M015|M015A|M016|M016A|M017|M017A|M018",
   "131ce EGYPTIAN HIEROGLYPH |M019|M020|M021|M022|M022A|M023|M024|M024A|M025|M026|M027|M028|M028A",
   "131db EGYPTIAN HIEROGLYPH |M029|M030|M031|M031A|M032|M033|M033A|M033B|M034|M035|M036|M037|M038",
   "131e8 EGYPTIAN HIEROGLYPH |M039|M040|M040A|M041|M042|M043|M044|N001|N002|N003|N004|N005|N006",
   "131f5 EGYPTIAN HIEROGLYPH |N007|N008|N009|N010|N011|N012|N013|N014|N015|N016|N017|N018|N018A",
   "13202 EGYPTIAN HIEROGLYPH |N018B|N019|N020|N021|N022|N023|N024|N025|N025A|N026|N027|N028|N029",
   "1320f EGYPTIAN HIEROGLYPH |N030|N031|N032|N033|N033A|N034|N034A|N035|N035A|N036|N037|N037A",
   "1321b EGYPTIAN HIEROGLYPH |N038|N039|N040|N041|N042|NL001|NL002|NL003|NL004|NL005|NL005A|NL006",
   "13227 EGYPTIAN HIEROGLYPH |NL007|NL008|NL009|NL010|NL011|NL012|NL013|NL014|NL015|NL016|NL017",
   "13232 EGYPTIAN HIEROGLYPH |NL017A|NL018|NL019|NL020|NU001|NU002|NU003|NU004|NU005|NU006|NU007",
   "1323d EGYPTIAN HIEROGLYPH |NU008|NU009|NU010|NU010A|NU011|NU011A|NU012|NU013|NU014|NU015|NU016",
   "13248 EGYPTIAN HIEROGLYPH |NU017|NU018|NU018A|NU019|NU020|NU021|NU022|NU022A|O001|O001A|O002",
   "13253 EGYPTIAN HIEROGLYPH |O003|O004|O005|O005A|O006|O006A|O006B|O006C|O006D|O006E|O006F|O007",
   "1325f EGYPTIAN HIEROGLYPH |O008|O009|O010|O010A|O010B|O010C|O011|O012|O013|O014|O015|O016|O017",
   "1326c EGYPTIAN HIEROGLYPH |O018|O019|O019A|O020|O020A|O021|O022|O023|O024|O024A|O025|O025A",
   "13278 EGYPTIAN HIEROGLYPH |O026|O027|O028|O029|O029A|O030|O030A|O031|O032|O033|O033A|O034",
   "13284 EGYPTIAN HIEROGLYPH |O035|O036|O036A|O036B|O036C|O036D|O037|O038|O039|O040|O041|O042",
   "13290 EGYPTIAN HIEROGLYPH |O043|O044|O045|O046|O047|O048|O049|O050|O050A|O050B|O051|P001|P001A",
   "1329d EGYPTIAN HIEROGLYPH |P002|P003|P003A|P004|P005|P006|P007|P008|P009|P010|P011|Q001|Q002",
   "132aa EGYPTIAN HIEROGLYPH |Q003|Q004|Q005|Q006|Q007|R001|R002|R002A|R003|R003A|R003B|R004|R005",
   "132b7 EGYPTIAN HIEROGLYPH |R006|R007|R008|R009|R010|R010A|R011|R012|R013|R014|R015|R016|R016A",
   "132c4 EGYPTIAN HIEROGLYPH |R017|R018|R019|R020|R021|R022|R023|R024|R025|R026|R027|R028|R029",
   "132d1 EGYPTIAN HIEROGLYPH |S001|S002|S002A|S003|S004|S005|S006|S006A|S007|S008|S009|S010|S011",
   "132de EGYPTIAN HIEROGLYPH |S012|S013|S014|S014A|S014B|S015|S016|S017|S017A|S018|S019|S020|S021",
   "132eb EGYPTIAN HIEROGLYPH |S022|S023|S024|S025|S026|S026A|S026B|S027|S028|S029|S030|S031|S032",
   "132f8 EGYPTIAN HIEROGLYPH |S033|S034|S035|S035A|S036|S037|S038|S039|S040|S041|S042|S043|S044",
   "13305 EGYPTIAN HIEROGLYPH |S045|S046|T001|T002|T003|T003A|T004|T005|T006|T007|T007A|T008|T008A",
   "13312 EGYPTIAN HIEROGLYPH |T009|T009A|T010|T011|T011A|T012|T013|T014|T015|T016|T016A|T017|T018",
   "1331f EGYPTIAN HIEROGLYPH |T019|T020|T021|T022|T023|T024|T025|T026|T027|T028|T029|T030|T031",
   "1332c EGYPTIAN HIEROGLYPH |T032|T032A|T033|T033A|T034|T035|T036|U001|U002|U003|U004|U005",
   "13338 EGYPTIAN HIEROGLYPH |U006|U006A|U006B|U007|U008|U009|U010|U011|U012|U013|U014|U015",
   "13344 EGYPTIAN HIEROGLYPH |U016|U017|U018|U019|U020|U021|U022|U023|U023A|U024|U025",
   "1334f EGYPTIAN HIEROGLYPH |U026|U027|U028|U029|U029A|U030|U031|U032|U032A|U033|U034|U035|U036",
   "1335c EGYPTIAN HIEROGLYPH |U037|U038|U039|U040|U041|U042|V001|V001A|V001B|V001C|V001D|V001E",
   "13368 EGYPTIAN HIEROGLYPH |V001F|V001G|V001H|V001I|V002|V002A|V003|V004|V005|V006|V007|V007A",
   "13374 EGYPTIAN HIEROGLYPH |V007B|V008|V009|V010|V011|V011A|V011B|V011C|V012|V012A|V012B|V013",
   "13380 EGYPTIAN HIEROGLYPH |V014|V015|V016|V017|V018|V019|V020|V020A|V020B|V020C|V020D|V020E",
   "1338c EGYPTIAN HIEROGLYPH |V020F|V020G|V020H|V020I|V020J|V020K|V020L|V021|V022|V023|V023A|V024",
   "13398 EGYPTIAN HIEROGLYPH |V025|V026|V027|V028|V028A|V029|V029A|V030|V030A|V031|V031A",
   "133a3 EGYPTIAN HIEROGLYPH |V032|V033|V033A|V034|V035|V036|V037|V037A|V038|V039|V040|V040A|W001",
   "133b0 EGYPTIAN HIEROGLYPH |W002|W003|W003A|W004|W005|W006|W007|W008|W009|W009A|W010|W010A|W011",
   "133bd EGYPTIAN HIEROGLYPH |W012|W013|W014|W014A|W015|W016|W017|W017A|W018|W018A|W019|W020|W021",
   "133ca EGYPTIAN HIEROGLYPH |W022|W023|W024|W024A|W025|X001|X002|X003|X004|X004A|X004B|X005|X006",
   "133d7 EGYPTIAN HIEROGLYPH |X006A|X007|X008|X008A|Y001|Y001A|Y002|Y003|Y004|Y005|Y006|Y007|Y008",
   "133e4 EGYPTIAN HIEROGLYPH |Z001|Z002|Z002A|Z002B|Z002C|Z002D|Z003|Z003A|Z003B|Z004",
   "133ee EGYPTIAN HIEROGLYPH |Z004A|Z005|Z005A|Z006|Z007|Z008|Z009|Z010|Z011",
   "133f7 EGYPTIAN HIEROGLYPH |Z012|Z013|Z014|Z015|Z015A|Z015B|Z015C|Z015D|Z015E|Z015F|Z015G|Z015H",
   "13403 EGYPTIAN HIEROGLYPH |Z015I|Z016|Z016A|Z016B|Z016C|Z016D|Z016E|Z016F|Z016G|Z016H|AA001",
   "1340e EGYPTIAN HIEROGLYPH |AA002|AA003|AA004|AA005|AA006|AA007|AA007A|AA007B|AA008|AA009|AA010",
   "13419 EGYPTIAN HIEROGLYPH |AA011|AA012|AA013|AA014|AA015|AA016|AA017|AA018|AA019|AA020|AA021",
   "13424 EGYPTIAN HIEROGLYPH |AA022|AA023|AA024|AA025|AA026|AA027|AA028|AA029|AA030|AA031|AA032",
   "13430 EGYPTIAN HIEROGLYPH |VERTICAL JOINER|HORIZONTAL JOINER",
   "13432 EGYPTIAN HIEROGLYPH INSERT AT |TOP START|BOTTOM START|TOP END|BOTTOM END",
   "13436 EGYPTIAN HIEROGLYPH |OVERLAY MIDDLE|BEGIN SEGMENT|END SEGMENT",
   "14400 ANATOLIAN HIEROGLYPH |A001|A002|A003|A004|A005|A006|A007|A008|A009|A010|A010A|A011|A012",
   "1440d ANATOLIAN HIEROGLYPH |A013|A014|A015|A016|A017|A018|A019|A020|A021|A022|A023|A024",
   "14419 ANATOLIAN HIEROGLYPH |A025|A026|A026A|A027|A028|A029|A030|A031|A032|A033|A034|A035|A036",
   "14426 ANATOLIAN HIEROGLYPH |A037|A038|A039|A039A|A040|A041|A041A|A042|A043|A044",
   "14430 ANATOLIAN HIEROGLYPH |A045|A045A|A046|A046A|A046B|A047|A048|A049|A050|A051|A052|A053",
   "1443c ANATOLIAN HIEROGLYPH |A054|A055|A056|A057|A058|A059|A060|A061|A062|A063|A064|A065",
   "14448 ANATOLIAN HIEROGLYPH |A066|A066A|A066B|A066C|A067|A068|A069|A070|A071|A072|A073|A074",
   "14454 ANATOLIAN HIEROGLYPH |A075|A076|A077|A078|A079|A080|A081|A082|A083|A084|A085|A086|A087",
   "14461 ANATOLIAN HIEROGLYPH |A088|A089|A090|A091|A092|A093|A094|A095|A096|A097|A097A|A098|A098A",
   "1446e ANATOLIAN HIEROGLYPH |A099|A100|A100A|A101|A101A|A102|A102A|A103|A104|A104A|A104B|A104C",
   "1447a ANATOLIAN HIEROGLYPH |A105|A105A|A105B|A106|A107|A107A|A107B|A107C|A108|A109|A110|A110A",
   "14486 ANATOLIAN HIEROGLYPH |A110B|A111|A112|A113|A114|A115|A115A|A116|A117|A118|A119|A120|A121",
   "14493 ANATOLIAN HIEROGLYPH |A122|A123|A124|A125|A125A|A126|A127|A128|A129|A130|A131|A132|A133",
   "144a0 ANATOLIAN HIEROGLYPH |A134|A135|A135A|A136|A137|A138|A139|A140|A141|A142|A143|A144|A145",
   "144ad ANATOLIAN HIEROGLYPH |A146|A147|A148|A149|A150|A151|A152|A153|A154|A155|A156|A157|A158",
   "144ba ANATOLIAN HIEROGLYPH |A159|A160|A161|A162|A163|A164|A165|A166|A167|A168|A169|A170|A171",
   "144c7 ANATOLIAN HIEROGLYPH |A172|A173|A174|A175|A176|A177|A178|A179|A180|A181|A182|A183|A184",
   "144d4 ANATOLIAN HIEROGLYPH |A185|A186|A187|A188|A189|A190|A191|A192|A193|A194|A195|A196|A197",
   "144e1 ANATOLIAN HIEROGLYPH |A198|A199|A200|A201|A202|A202A|A202B|A203|A204|A205|A206|A207",
   "144ed ANATOLIAN HIEROGLYPH |A207A|A208|A209|A209A|A210|A211|A212|A213|A214|A215|A215A|A216",
   "144f9 ANATOLIAN HIEROGLYPH |A216A|A217|A218|A219|A220|A221|A222|A223|A224|A225|A226|A227|A227A",
   "14506 ANATOLIAN HIEROGLYPH |A228|A229|A230|A231|A232|A233|A234|A235|A236|A237|A238|A239|A240",
   "14513 ANATOLIAN HIEROGLYPH |A241|A242|A243|A244|A245|A246|A247|A248|A249|A250|A251|A252|A253",
   "14520 ANATOLIAN HIEROGLYPH |A254|A255|A256|A257|A258|A259|A260|A261|A262|A263|A264|A265|A266",
   "1452d ANATOLIAN HIEROGLYPH |A267|A267A|A268|A269|A270|A271|A272|A273|A274|A275|A276|A277|A278",
   "1453a ANATOLIAN HIEROGLYPH |A279|A280|A281|A282|A283|A284|A285|A286|A287|A288|A289|A289A|A290",
   "14547 ANATOLIAN HIEROGLYPH |A291|A292|A293|A294|A294A|A295|A296|A297|A298|A299|A299A|A300",
   "14553 ANATOLIAN HIEROGLYPH |A301|A302|A303|A304|A305|A306|A307|A308|A309|A309A|A310|A311|A312",
   "14560 ANATOLIAN HIEROGLYPH |A313|A314|A315|A316|A317|A318|A319|A320|A321|A322|A323|A324|A325",
   "1456d ANATOLIAN HIEROGLYPH |A326|A327|A328|A329|A329A|A330|A331|A332A|A332B|A332C|A333|A334",
   "14579 ANATOLIAN HIEROGLYPH |A335|A336|A336A|A336B|A336C|A337|A338|A339|A340|A341",
   "14583 ANATOLIAN HIEROGLYPH |A342|A343|A344|A345|A346|A347|A348|A349|A350|A351|A352|A353|A354",
   "14590 ANATOLIAN HIEROGLYPH |A355|A356|A357|A358|A359|A359A|A360|A361|A362|A363|A364|A364A|A365",
   "1459d ANATOLIAN HIEROGLYPH |A366|A367|A368|A368A|A369|A370|A371|A371A|A372|A373|A374|A375|A376",
   "145aa ANATOLIAN HIEROGLYPH |A377|A378|A379|A380|A381|A381A|A382|A383 RA OR RI|A383A|A384|A385",
   "145b5 ANATOLIAN HIEROGLYPH |A386|A386A|A387|A388|A389|A390|A391|A392|A393 EIGHT|A394|A395",
   "145c0 ANATOLIAN HIEROGLYPH |A396|A397|A398|A399|A400|A401|A402|A403|A404|A405|A406|A407|A408",
   "145cd ANATOLIAN HIEROGLYPH |A409|A410 BEGIN LOGOGRAM MARK|A410A END LOGOGRAM MARK|A411|A412",
   "145d2 ANATOLIAN HIEROGLYPH |A413|A414|A415|A416|A417|A418|A419|A420|A421|A422|A423|A424|A425",
   "145df ANATOLIAN HIEROGLYPH |A426|A427|A428|A429|A430|A431|A432|A433|A434|A435|A436|A437|A438",
   "145ec ANATOLIAN HIEROGLYPH |A439|A440|A441|A442|A443|A444|A445|A446|A447|A448|A449|A450|A450A",
   "145f9 ANATOLIAN HIEROGLYPH |A451|A452|A453|A454|A455|A456|A457|A457A|A458|A459|A460|A461|A462",
   "14606 ANATOLIAN HIEROGLYPH |A463|A464|A465|A466|A467|A468|A469|A470|A471|A472|A473|A474|A475",
   "14613 ANATOLIAN HIEROGLYPH |A476|A477|A478|A479|A480|A481|A482|A483|A484|A485|A486|A487|A488",
   "14620 ANATOLIAN HIEROGLYPH |A489|A490|A491|A492|A493|A494|A495|A496|A497|A501|A502|A503|A504",
   "1462d ANATOLIAN HIEROGLYPH |A505|A506|A507|A508|A509|A510|A511|A512|A513|A514|A515|A516|A517",
   "1463a ANATOLIAN HIEROGLYPH |A518|A519|A520|A521|A522|A523|A524|A525|A526|A527|A528|A529|A530",
   "16800 BAMUM LETTER PHASE-A |NGKUE MFON|GBIEE FON|PON MFON PIPAEMGBIEE|PON MFON PIPAEMBA",
   "16804 BAMUM LETTER PHASE-A |NAA MFON|SHUENSHUET|TITA MFON|NZA MFON|SHINDA PA NJI",
   "16809 BAMUM LETTER PHASE-A PON PA NJI |PIPAEMGBIEE|PIPAEMBA",
   "1680b BAMUM LETTER PHASE-A |MAEMBGBIEE|TU MAEMBA|NGANGU|MAEMVEUX|MANSUAE|MVEUAENGAM",
   "16811 BAMUM LETTER PHASE-A |SEUNYAM|NTOQPEN|KEUKEUTNDA|NKINDI|SUU|NGKUENZEUM|LAPAQ|LET KUT",
   "16819 BAMUM LETTER PHASE-A |NTAP MFAA|MAEKEUP|PASHAE|GHEUAERAE|PAMSHAE|MON NGGEUAET|NZUN MEUT",
   "16820 BAMUM LETTER PHASE-A |U YUQ NAE|GHEUAEGHEUAE|NTAP NTAA|SISA|MGBASA|MEUNJOMNDEUQ",
   "16826 BAMUM LETTER PHASE-A |MOOMPUQ|KAFA|PA LEERAEWA|NDA LEERAEWA|PET|MAEMKPEN|NIKA|PUP",
   "1682e BAMUM LETTER PHASE-A |TUAEP|LUAEP|SONJAM|TEUTEUWEN|MAENYI|KET|NDAANGGEUAET|KUOQ|MOOMEUT",
   "16837 BAMUM LETTER PHASE-A |SHUM|LOMMAE|FIRI|ROM|KPOQ|SOQ|MAP PIEET|SHIRAE|NTAP|SHOQ NSHUT YUM",
   "16841 BAMUM LETTER PHASE-A |NYIT MONGKEUAEQ|PAARAE|NKAARAE|UNKNOWN|NGGEN|MAESI|NJAM|MBANYI",
   "16849 BAMUM LETTER PHASE-A |NYET|TEUAEN|SOT|PAAM|NSHIEE|MAEM|NYI|KAQ|NSHA|VEE|LU|NEN|NAQ|MBAQ",
   "16857 BAMUM LETTER PHASE-B |NSHUET|TU MAEMGBIEE|SIEE|SET TU|LOM NTEUM|MBA MAELEE|KIEEM|YEURAE",
   "1685f BAMUM LETTER PHASE-B |MBAARAE|KAM|PEESHI|YAFU LEERAEWA|LAM NSHUT NYAM|NTIEE SHEUOQ",
   "16865 BAMUM LETTER PHASE-B |NDU NJAA|GHEUGHEUAEM|PIT|TU NSIEE|SHET NJAQ|SHEUAEQTU|MFON TEUAEQ",
   "1686c BAMUM LETTER PHASE-B |MBIT MBAAKET|NYI NTEUM|KEUPUQ|GHEUGHEN|KEUYEUX|LAANAE|PARUM|VEUM",
   "16874 BAMUM LETTER PHASE-B |NGKINDI MVOP|NGGEU MBU|WUAET|SAKEUAE|TAAM|MEUQ|NGGUOQ|NGGUOQ LARGE",
   "1687c BAMUM LETTER PHASE-B |MFIYAQ|SUE|MBEURI|MONTIEEN|NYAEMAE|PUNGAAM|MEUT NGGEET|FEUX",
   "16884 BAMUM LETTER PHASE-B |MBUOQ|FEE|KEUAEM|MA NJEUAENA|MA NJUQA|LET|NGGAAM|NSEN|MA|KIQ|NGOM",
   "1688f BAMUM LETTER PHASE-C |NGKUE MAEMBA|NZA|YUM|WANGKUOQ|NGGEN|NDEUAEREE|NGKAQ|GHARAE",
   "16897 BAMUM LETTER PHASE-C |MBEEKEET|GBAYI|NYIR MKPARAQ MEUN|NTU MBIT|MBEUM",
   "1689c BAMUM LETTER PHASE-C |PIRIEEN|NDOMBU|MBAA CABBAGE-TREE|KEUSHEUAEP|GHAP|KEUKAQ|YU MUOMAE",
   "168a3 BAMUM LETTER PHASE-C |NZEUM|MBUE|NSEUAEN|MBIT|YEUQ|KPARAQ|KAA|SEUX|NDIDA|TAASHAE",
   "168ad BAMUM LETTER PHASE-C |NJUEQ|TITA YUE|SUAET|NGGUAEN NYAM|VEUX|NANSANAQ|MA KEUAERI",
   "168b4 BAMUM LETTER PHASE-C |NTAA|NGGUON|LAP|MBIRIEEN|MGBASAQ|NTEUNGBA|TEUTEUX|NGGUM",
   "168bc BAMUM LETTER PHASE-C |FUE|NDEUT|NSA|NSHAQ|BUNG|VEUAEPEN|MBERAE|RU|NJAEM|LAM|TITUAEP",
   "168c7 BAMUM LETTER PHASE-C |NSUOT NGOM|NJEEEE|KET|NGGU|MAESI|MBUAEM|LU|KUT|NJAM|NGOM|WUP",
   "168d2 BAMUM LETTER PHASE-C |NGGUEET|NSOM|NTEN|KUOP NKAARAE|NSUN|NDAM|MA NSIEE|YAA|NDAP|SHUEQ",
   "168dc BAMUM LETTER PHASE-C |SETFON|MBI|MAEMBA|MBANYI|KEUSEUX|MBEUX|KEUM|MBAA PICKET|YUWOQ",
   "168e5 BAMUM LETTER PHASE-C |NJEUX|MIEE|MUAE|SHIQ|KEN LAW|KEN FATIGUE|NGAQ|NAQ|LIQ|PIN|PEN|TET",
   "168f1 BAMUM LETTER PHASE-D |MBUO|WAP|NJI|MFON|NJIEE|LIEE|NJEUT|NSHEE|NGGAAMAE|NYAM|WUAEN|NGKUN",
   "168fd BAMUM LETTER PHASE-D |SHEE|NGKAP|KEUAETMEUN|TEUT|SHEUAE|NJAP|SUE|KET|YAEMMAE|KUOM|SAP",
   "16908 BAMUM LETTER PHASE-D |MFEUT|NDEUX|MALEERI|MEUT|SEUAEQ|YEN|NJEUAEM|KEUOT MBUAE|NGKEURI",
   "16911 BAMUM LETTER PHASE-D |TU|GHAA|NGKYEE|FEUFEUAET|NDEE|MGBOFUM|LEUAEP|NDON|MONI|MGBEUN",
   "1691b BAMUM LETTER PHASE-D |PUUT|MGBIEE|MFO|LUM|NSIEEP|MBAA|KWAET|NYET|TEUAEN|SOT|YUWOQ|KEUM",
   "16927 BAMUM LETTER PHASE-D |RAEM|TEEEE|NGKEUAEQ|MFEUAE|NSIEET|KEUP|PIP|PEUTAE|NYUE|LET|NGGAAM",
   "16932 BAMUM LETTER PHASE-D |MFIEE|NGGWAEN|YUOM|PAP|YUOP|NDAM|NTEUM|SUAE|KUN|NGGEUX|NGKIEE|TUOT",
   "1693e BAMUM LETTER PHASE-D |MEUN|KUQ|NSUM|TEUN|MAENJET|NGGAP|LEUM|NGGUOM|NSHUT|NJUEQ|GHEUAE",
   "16949 BAMUM LETTER PHASE-D |KU|REN OLD|TAE|TOQ|NYI|RII|LEEEE|MEEEE|M|SUU|MU|SHII|SHEUX|KYEE|NU",
   "16958 BAMUM LETTER PHASE-D |SHU|NTEE|PEE|NI|SHOQ|PUQ|MVOP|LOQ|REN MUCH|TI|NTUU|MBAA SEVEN|SAQ",
   "16965 BAMUM LETTER PHASE-|D FAA|E NDAP|E TOON|E MBEUM|E LAP|E VOM",
   "1696b BAMUM LETTER PHASE-E |LOON|PAA|SOM|RAQ|NSHUOP|NDUN|PUAE|TAM|NGKA|KPEUX|WUO|SEE|NGGEUAET",
   "16978 BAMUM LETTER PHASE-E |PAAM|TOO|KUOP|LOM|NSHIEE|NGOP|MAEM|NGKEUX|NGOQ|NSHUE|RIMGBA|NJEUX",
   "16984 BAMUM LETTER PHASE-E |PEEM|SAA|NGGURAE|MGBA|GHEUX|NGKEUAEM|NJAEMLI|MAP|LOOT|NGGEEEE|NDIQ",
   "1698f BAMUM LETTER PHASE-E |TAEN NTEUM|SET|PUM|NDAA SOFTNESS|NGGUAESHAE NYAM|YIEE|GHEUN|TUAE",
   "16997 BAMUM LETTER PHASE-E |YEUAE|PO|TUMAE|KEUAE|SUAEN|TEUAEQ|VEUAE|WEUX|LAAM|PU|TAAQ|GHAAMAE",
   "169a3 BAMUM LETTER PHASE-E |NGEUREUT|SHEUAEQ|MGBEN|MBEE|NZAQ|NKOM|GBET|TUM|KUET|YAP",
   "169ad BAMUM LETTER PHASE-E |NYI CLEAVER|YIT|MFEUQ|NDIAQ|PIEEQ|YUEQ|LEUAEM|FUE|GBEUX|NGKUP|KET",
   "169b8 BAMUM LETTER PHASE-E |MAE|NGKAAMI|GHET|FA|NTUM|PEUT|YEUM|NGGEUAE|NYI BETWEEN|NZUQ|POON",
   "169c3 BAMUM LETTER PHASE-E |MIEE|FUET|NAE|MUAE|GHEUAE|FU I|MVI|PUAQ|NGKUM|KUT|PIET|NTAP|YEUAET",
   "169d0 BAMUM LETTER PHASE-E |NGGUP|PA PEOPLE|FU CALL|FOM|NJEE|A|TOQ|O|I|LAQ|PA PLURAL|TAA",
   "169dc BAMUM LETTER PHASE-E |TAQ|NDAA MY HOUSE|SHIQ|YEUX|NGUAE|YUAEN|YOQ SWIMMING|YOQ COVER|YUQ",
   "169e5 BAMUM LETTER PHASE-E |YUN|KEUX|PEUX|NJEE EPOCH|PUE|WUE|FEE|VEE|LU|MI|REUX|RAE|NGUAET|NGA",
   "169f3 BAMUM LETTER PHASE-E |SHO|SHOQ|FU REMEDY|NA|PI|LOQ|KO|MEN|MA|MAQ|TEU|KI|MON|TEN|FAQ|GHOM",
   "16a03 BAMUM LETTER PHASE-F |KA|U|KU|EE|REE|TAE|NYI|LA|RII|RIEE|MEEEE|TAA|NDAA|NJAEM|M|SUU",
   "16a13 BAMUM LETTER PHASE-F |SHII|SI|SEUX|KYEE|KET|NUAE|NU|NJUAE|YOQ|SHU|YA|NSHA|PEUX|NTEE|WUE",
   "16a22 BAMUM LETTER PHASE-F |PEE|RU|NI|REUX|KEN|NGKWAEN|NGGA",
   "16a29 BAMUM LETTER PHASE-F |SHO|PUAE|FOM|WA|LI|LOQ|KO|MBEN|REN|MA|MO|MBAA|TET|KPA|SAMBA|VUEQ",
   "16a40 MRO LETTER |TA|NGI|YO|MIM|BA|DA|A|PHI|KHAI|HAO",
   "16a4a MRO LETTER |DAI|CHU|KEAAE|OL|MAEM|NIN|PA|OO|O|RO|SHI|THEA|EA|WA|E|KO|LAN|LA|HAI|RI|TEK",
   "16a60 MRO DIGIT |ZERO|ONE|TWO|THREE|FOUR|FIVE|SIX|SEVEN|EIGHT|NINE",
   "16a6e |MRO DANDA|MRO DOUBLE DANDA|TANGSA LETTER OZ",
   "16a71 TANGSA LETTER |OC|OQ|OX|AZ|AC|AQ|AX|VZ|VC|VQ|VX|EZ|EC|EQ|EX|IZ|IC|IQ|IX|UZ|UC|UQ|UX|AWZ",
   "16a89 TANGSA LETTER |AWC|AWQ|AWX|UIZ|UIC|UIQ|UIX|FINAL NG|LONG UEX|SHORT UEZ|SHORT AWX|UEC|UEZ",
   "16a96 TANGSA LETTER |UEQ|UEX|UIUZ|UIUC|UIUQ|UIUX|MZ|MC|MQ|MX|KA|KHA|GA|NGA|SA|YA|WA|PA|NYA|PHA",
   "16aaa TANGSA LETTER |BA|MA|NA|HA|LA|HTA|TA|DA|RA|NHA|SHA|CA|TSA|GHA|HTTA|THA|XA|FA|DHA|CHA|ZA",
   "16ac0 TANGSA DIGIT |ZERO|ONE|TWO|THREE|FOUR|FIVE|SIX|SEVEN|EIGHT|NINE",
   "16ad0 BASSA VAH LETTER |ENNI|KA|SE|FA|MBE|YIE|GAH|DHII|KPAH",
   "16ad9 BASSA VAH LETTER |JO|HWAH|WA|ZO|GBU|DO|CE|UWU|TO|BA|VU|YEIN|PA|WADDA|A|O|OO|U|EE|E|I",
   "16af0 BASSA VAH COMBINING |HIGH TONE|LOW TONE|MID TONE|LOW-MID TONE|HIGH-LOW TONE",
   "16af5 |BASSA VAH FULL STOP",
   "16b00 PAHAWH HMONG VOWEL |KEEB|KEEV|KIB|KIV|KAUB|KAUV|KUB|KUV|KEB|KEV|KAIB|KAIV|KOOB",
   "16b0d PAHAWH HMONG VOWEL |KOOV|KAWB|KAWV|KUAB|KUAV|KOB|KOV|KIAB|KIAV|KAB|KAV|KWB|KWV|KAAB|KAAV",
   "16b1c PAHAWH HMONG CONSONANT |VAU|NTSAU|LAU|HAU|NLAU|RAU|NKAU",
   "16b23 PAHAWH HMONG CONSONANT |QHAU|YAU|HLAU|MAU|CHAU|NCHAU|HNAU|PLHAU|NTHAU|NAU|AU|XAU|CAU",
   "16b30 PAHAWH HMONG MARK CIM |TUB|SO|KES|KHAV|SUAM|HOM|TAUM",
   "16b37 PAHAWH HMONG SIGN |VOS THOM|VOS TSHAB CEEB|CIM CHEEM|VOS THIAB|VOS FEEM",
   "16b3c PAHAWH HMONG SIGN XYEEM |NTXIV|RHO|TOV|FAIB",
   "16b40 PAHAWH HMONG SIGN |VOS SEEV|MEEJ SUAB|VOS NRUA|IB YAM|XAUS|CIM TSOV ROG",
   "16b50 PAHAWH HMONG DIGIT |ZERO|ONE|TWO|THREE|FOUR|FIVE|SIX|SEVEN|EIGHT|NINE",
   "16b5b PAHAWH HMONG NUMBER |TENS|HUNDREDS",
   "16b5d PAHAWH HMONG NUMBER |TEN THOUSANDS|MILLIONS|HUNDRED MILLIONS|TEN BILLIONS|TRILLIONS",
   "16b63 PAHAWH HMONG SIGN |VOS LUB|XYOO|HLI|THIRD-STAGE HLI",
   "16b67 PAHAWH HMONG SIGN |ZWJ THAJ|HNUB|NQIG|XIAB|NTUJ|AV|TXHEEJ CEEV|MEEJ TSEEB|TAU|LOS|MUS",
   "16b72 PAHAWH HMONG SIGN CIM |HAIS LUS NTOG NTOG|CUAM TSHOOJ|TXWV|TXWV CHWV|PUB DAWB|NRES TOS",
   "16b7d PAHAWH HMONG CLAN SIGN |TSHEEJ|YEEG|LIS|LAUJ|XYOOJ|KOO|HAWJ",
   "16b84 PAHAWH HMONG CLAN SIGN |MUAS|THOJ|TSAB|PHAB|KHAB|HAM|VAJ|FAJ|YAJ|TSWB|KWM|VWJ",
   "16e40 MEDEFAIDRIN CAPITAL LETTER |M|S|V|W|ATIU",
   "16e45 MEDEFAIDRIN CAPITAL LETTER |Z|KP|P|T|G|F|I|K|A|J|E|B|C|U|YU|L|Q|HP|NY|X|D|OE|N|R|O|AI|Y",
   "16e60 MEDEFAIDRIN SMALL LETTER |M|S|V|W|ATIU",
   "16e65 MEDEFAIDRIN SMALL LETTER |Z|KP|P|T|G|F|I|K|A|J|E|B|C|U|YU|L|Q|HP|NY|X|D|OE|N|R|O|AI|Y",
   "16e80 MEDEFAIDRIN DIGIT |ZERO|ONE|TWO|THREE|FOUR|FIVE|SIX|SEVEN|EIGHT|NINE",
   "16e8a MEDEFAIDRIN NUMBER |TEN|ELEVEN|TWELVE",
   "16e8d MEDEFAIDRIN NUMBER |THIRTEEN|FOURTEEN|FIFTEEN|SIXTEEN|SEVENTEEN|EIGHTEEN|NINETEEN",
   "16e94 MEDEFAIDRIN DIGIT |ONE ALTERNATE FORM|TWO ALTERNATE FORM|THREE ALTERNATE FORM",
   "16e97 MEDEFAIDRIN |COMMA|FULL STOP|SYMBOL AIVA|EXCLAMATION OH",
   "16f00 MIAO LETTER |PA|BA|YI PA|PLA|MA|MHA|ARCHAIC MA|FA|VA|VFA|TA|DA|YI TTA|YI TA|TTA|DDA",
   "16f10 MIAO LETTER |NA|NHA|YI NNA|ARCHAIC NA|NNA|NNHA|LA|LYA|LHA|LHYA|TLHA|DLHA|TLHYA|DLHYA|KA",
   "16f1f MIAO LETTER |GA|YI KA|QA|QGA|NGA|NGHA|ARCHAIC NGA|HA|XA|GHA|GHHA|TSSA|DZZA|NYA|NYHA",
   "16f2e MIAO LETTER |TSHA|DZHA|YI TSHA|YI DZHA|REFORMED TSHA|SHA|SSA|ZHA|ZSHA|TSA|DZA|YI TSA",
   "16f3a MIAO LETTER |SA|ZA|ZSA|ZZA|ZZSA|ARCHAIC ZZA|ZZYA|ZZSYA|WA|AH|HHA|BRI|SYI|DZYI|TE|TSE|RTE",
   "16f4f MIAO |SIGN CONSONANT MODIFIER BAR|LETTER NASALIZATION|SIGN ASPIRATION",
   "16f52 MIAO SIGN REFORMED |VOICING|ASPIRATION",
   "16f54 MIAO VOWEL SIGN |A|AA|AHH|AN|ANG|O|OO|WO|W|E|EN|ENG|OEY|I|IA|IAN|IANG|IO|IE|II|IU",
   "16f69 MIAO VOWEL SIGN |ING|U|UA|UAN|UANG|UU|UEI|UNG|Y|YI|AE|AEE|ERR|ROUNDED ERR",
   "16f77 MIAO VOWEL SIGN |ER|ROUNDED ER|AI|EI|AU|OU|N|NG|UOG|YUI|OG|OER|VW|IG|EA|IONG|UI",
   "16f8f MIAO TONE |RIGHT|TOP RIGHT|ABOVE|BELOW",
   "16f93 MIAO LETTER TONE-|2|3|4|5|6|7|8",
   "16f9a MIAO LETTER REFORMED TONE-|1|2|4|5|6|8",
   "16fe0 |TANGUT ITERATION MARK|NUSHU ITERATION MARK",
   "16fe2 |OLD CHINESE HOOK MARK|OLD CHINESE ITERATION MARK|KHITAN SMALL SCRIPT FILLER",
   "16ff0 VIETNAMESE ALTERNATE READING MARK |CA|NHAY",
   "18800 TANGUT COMPONENT-|001|002|003|004|005|006|007|008|009|010|011|012|013|014|015|016|017",
   "18811 TANGUT COMPONENT-|018|019|020|021|022|023|024|025|026|027|028|029|030|031|032|033|034",
   "18822 TANGUT COMPONENT-|035|036|037|038|039|040|041|042|043|044|045|046|047|048|049|050|051",
   "18833 TANGUT COMPONENT-|052|053|054|055|056|057|058|059|060|061|062|063|064|065|066|067|068",
   "18844 TANGUT COMPONENT-|069|070|071|072|073|074|075|076|077|078|079|080|081|082|083|084|085",
   "18855 TANGUT COMPONENT-|086|087|088|089|090|091|092|093|094|095|096|097|098|099|100|101|102",
   "18866 TANGUT COMPONENT-|103|104|105|106|107|108|109|110|111|112|113|114|115|116|117|118|119",
   "18877 TANGUT COMPONENT-|120|121|122|123|124|125|126|127|128|129|130|131|132|133|134|135|136",
   "18888 TANGUT COMPONENT-|137|138|139|140|141|142|143|144|145|146|147|148|149|150|151|152|153",
   "18899 TANGUT COMPONENT-|154|155|156|157|158|159|160|161|162|163|164|165|166|167|168|169|170",
   "188aa TANGUT COMPONENT-|171|172|173|174|175|176|177|178|179|180|181|182|183|184|185|186|187",
   "188bb TANGUT COMPONENT-|188|189|190|191|192|193|194|195|196|197|198|199|200|201|202|203|204",
   "188cc TANGUT COMPONENT-|205|206|207|208|209|210|211|212|213|214|215|216|217|218|219|220|221",
   "188dd TANGUT COMPONENT-|222|223|224|225|226|227|228|229|230|231|232|233|234|235|236|237|238",
   "188ee TANGUT COMPONENT-|239|240|241|242|243|244|245|246|247|248|249|250|251|252|253|254|255",
   "188ff TANGUT COMPONENT-|256|257|258|259|260|261|262|263|264|265|266|267|268|269|270",
   "1890e TANGUT COMPONENT-|271|272|273|274|275|276|277|278|279|280|281|282|283|284|285",
   "1891d TANGUT COMPONENT-|286|287|288|289|290|291|292|293|294|295|296|297|298|299|300",
   "1892c TANGUT COMPONENT-|301|302|303|304|305|306|307|308|309|310|311|312|313|314|315",
   "1893b TANGUT COMPONENT-|316|317|318|319|320|321|322|323|324|325|326|327|328|329|330",
   "1894a TANGUT COMPONENT-|331|332|333|334|335|336|337|338|339|340|341|342|343|344|345",
   "18959 TANGUT COMPONENT-|346|347|348|349|350|351|352|353|354|355|356|357|358|359|360",
   "18968 TANGUT COMPONENT-|361|362|363|364|365|366|367|368|369|370|371|372|373|374|375|376|377",
   "18979 TANGUT COMPONENT-|378|379|380|381|382|383|384|385|386|387|388|389|390|391|392|393|394",
   "1898a TANGUT COMPONENT-|395|396|397|398|399|400|401|402|403|404|405|406|407|408|409|410|411",
   "1899b TANGUT COMPONENT-|412|413|414|415|416|417|418|419|420|421|422|423|424|425|426|427|428",
   "189ac TANGUT COMPONENT-|429|430|431|432|433|434|435|436|437|438|439|440|441|442|443|444|445",
   "189bd TANGUT COMPONENT-|446|447|448|449|450|451|452|453|454|455|456|457|458|459|460|461|462",
   "189ce TANGUT COMPONENT-|463|464|465|466|467|468|469|470|471|472|473|474|475|476|477|478|479",
   "189df TANGUT COMPONENT-|480|481|482|483|484|485|486|487|488|489|490|491|492|493|494|495|496",
   "189f0 TANGUT COMPONENT-|497|498|499|500|501|502|503|504|505|506|507|508|509|510|511|512|513",
   "18a01 TANGUT COMPONENT-|514|515|516|517|518|519|520|521|522|523|524|525|526|527|528|529|530",
   "18a12 TANGUT COMPONENT-|531|532|533|534|535|536|537|538|539|540|541|542|543|544|545|546|547",
   "18a23 TANGUT COMPONENT-|548|549|550|551|552|553|554|555|556|557|558|559|560|561|562|563|564",
   "18a34 TANGUT COMPONENT-|565|566|567|568|569|570|571|572|573|574|575|576|577|578|579|580|581",
   "18a45 TANGUT COMPONENT-|582|583|584|585|586|587|588|589|590|591|592|593|594|595|596|597|598",
   "18a56 TANGUT COMPONENT-|599|600|601|602|603|604|605|606|607|608|609|610|611|612|613|614|615",
   "18a67 TANGUT COMPONENT-|616|617|618|619|620|621|622|623|624|625|626|627|628|629|630|631|632",
   "18a78 TANGUT COMPONENT-|633|634|635|636|637|638|639|640|641|642|643|644|645|646|647|648|649",
   "18a89 TANGUT COMPONENT-|650|651|652|653|654|655|656|657|658|659|660|661|662|663|664|665|666",
   "18a9a TANGUT COMPONENT-|667|668|669|670|671|672|673|674|675|676|677|678|679|680|681|682|683",
   "18aab TANGUT COMPONENT-|684|685|686|687|688|689|690|691|692|693|694|695|696|697|698|699|700",
   "18abc TANGUT COMPONENT-|701|702|703|704|705|706|707|708|709|710|711|712|713|714|715|716|717",
   "18acd TANGUT COMPONENT-|718|719|720|721|722|723|724|725|726|727|728|729|730|731|732|733|734",
   "18ade TANGUT COMPONENT-|735|736|737|738|739|740|741|742|743|744|745|746|747|748|749|750|751",
   "18aef TANGUT COMPONENT-|752|753|754|755|756|757|758|759|760|761|762|763|764|765|766|767|768",
   "1aff0 KATAKANA LETTER MINNAN TONE-|2|3|4|5",
   "1aff5 KATAKANA LETTER MINNAN TONE-|7|8",
   "1aff7 KATAKANA LETTER MINNAN NASALIZED TONE-|1|2|3|4|5",
   "1affd KATAKANA LETTER MINNAN NASALIZED TONE-|7|8",
   "1b000 |KATAKANA LETTER ARCHAIC E|HIRAGANA LETTER ARCHAIC YE",
   "1b002 HENTAIGANA LETTER |A-1|A-2|A-3|A-WO|I-1|I-2|I-3|I-4|U-1|U-2|U-3|U-4|U-5|E-2|E-3|E-4",
   "1b012 HENTAIGANA LETTER |E-5|E-6|O-1|O-2|O-3|KA-1|KA-2|KA-3|KA-4|KA-5|KA-6|KA-7|KA-8|KA-9",
   "1b020 HENTAIGANA LETTER |KA-10|KA-11|KA-KE|KI-1|KI-2|KI-3|KI-4|KI-5|KI-6|KI-7|KI-8|KU-1|KU-2",
   "1b02d HENTAIGANA LETTER |KU-3|KU-4|KU-5|KU-6|KU-7|KE-1|KE-2|KE-3|KE-4|KE-5|KE-6|KO-1|KO-2|KO-3",
   "1b03b HENTAIGANA LETTER |KO-KI|SA-1|SA-2|SA-3|SA-4|SA-5|SA-6|SA-7|SA-8|SI-1|SI-2|SI-3|SI-4",
   "1b048 HENTAIGANA LETTER |SI-5|SI-6|SU-1|SU-2|SU-3|SU-4|SU-5|SU-6|SU-7|SU-8|SE-1|SE-2|SE-3|SE-4",
   "1b056 HENTAIGANA LETTER |SE-5|SO-1|SO-2|SO-3|SO-4|SO-5|SO-6|SO-7|TA-1|TA-2|TA-3|TA-4|TI-1|TI-2",
   "1b064 HENTAIGANA LETTER |TI-3|TI-4|TI-5|TI-6|TI-7|TU-1|TU-2|TU-3|TU-4|TU-TO|TE-1|TE-2|TE-3",
   "1b071 HENTAIGANA LETTER |TE-4|TE-5|TE-6|TE-7|TE-8|TE-9|TO-1|TO-2|TO-3|TO-4|TO-5|TO-6|TO-RA",
   "1b07e HENTAIGANA LETTER |NA-1|NA-2|NA-3|NA-4|NA-5|NA-6|NA-7|NA-8|NA-9|NI-1|NI-2|NI-3|NI-4|NI-5",
   "1b08c HENTAIGANA LETTER |NI-6|NI-7|NI-TE|NU-1|NU-2|NU-3|NE-1|NE-2|NE-3|NE-4|NE-5|NE-6|NE-KO",
   "1b099 HENTAIGANA LETTER |NO-1|NO-2|NO-3|NO-4|NO-5|HA-1|HA-2|HA-3|HA-4|HA-5|HA-6|HA-7|HA-8|HA-9",
   "1b0a7 HENTAIGANA LETTER |HA-10|HA-11|HI-1|HI-2|HI-3|HI-4|HI-5|HI-6|HI-7|HU-1|HU-2|HU-3|HE-1",
   "1b0b4 HENTAIGANA LETTER |HE-2|HE-3|HE-4|HE-5|HE-6|HE-7|HO-1|HO-2|HO-3|HO-4|HO-5|HO-6|HO-7",
   "1b0c1 HENTAIGANA LETTER |HO-8|MA-1|MA-2|MA-3|MA-4|MA-5|MA-6|MA-7|MI-1|MI-2|MI-3|MI-4|MI-5|MI-6",
   "1b0cf HENTAIGANA LETTER |MI-7|MU-1|MU-2|MU-3|MU-4|ME-1|ME-2|ME-MA|MO-1|MO-2|MO-3|MO-4|MO-5",
   "1b0dc HENTAIGANA LETTER |MO-6|YA-1|YA-2|YA-3|YA-4|YA-5|YA-YO|YU-1|YU-2|YU-3|YU-4|YO-1|YO-2",
   "1b0e9 HENTAIGANA LETTER |YO-3|YO-4|YO-5|YO-6|RA-1|RA-2|RA-3|RA-4|RI-1|RI-2|RI-3|RI-4|RI-5|RI-6",
   "1b0f7 HENTAIGANA LETTER |RI-7|RU-1|RU-2|RU-3|RU-4|RU-5|RU-6|RE-1|RE-2|RE-3|RE-4|RO-1|RO-2|RO-3",
   "1b105 HENTAIGANA LETTER |RO-4|RO-5|RO-6|WA-1|WA-2|WA-3|WA-4|WA-5|WI-1|WI-2|WI-3|WI-4|WI-5|WE-1",
   "1b113 HENTAIGANA LETTER |WE-2|WE-3|WE-4|WO-1|WO-2|WO-3|WO-4|WO-5|WO-6|WO-7|N-MU-MO-1|N-MU-MO-2",
   "1b11f |HIRAGANA LETTER ARCHAIC WU",
   "1b120 KATAKANA LETTER ARCHAIC |YI|YE|WU",
   "1b150 HIRAGANA LETTER SMALL |WI|WE|WO",
   "1b164 KATAKANA LETTER SMALL |WI|WE|WO|N",
   "1bc00 DUPLOYAN LETTER |H|X|P|T|F|K|L|B|D|V|G|R|P N|D S|F N|K M|R S|TH|SLOAN DH",
   "1bc13 DUPLOYAN LETTER |DH|KK|SLOAN J|HL|LH|RH|M|N|J|S|M N|N M|J M|S J|M WITH DOT|N WITH DOT",
   "1bc23 DUPLOYAN LETTER |J WITH DOT|J WITH DOTS INSIDE AND ABOVE|S WITH DOT|S WITH DOT BELOW|M S",
   "1bc28 DUPLOYAN LETTER |N S|J S|S S|M N S|N M S|J M S|S J S|J S WITH DOT|J N|J N S|S T|S T R",
   "1bc34 DUPLOYAN LETTER |S P|S P R|T S|T R S|W|WH|W R|S N|S M|K R S|G R S|S K|S K R|A|SLOAN OW",
   "1bc43 DUPLOYAN LETTER |OA|O|AOU|I|E|IE|SHORT I|UI|EE|SLOAN EH|ROMANIAN I|SLOAN EE|LONG I",
   "1bc50 DUPLOYAN LETTER |YE|U|EU|XW|U N|LONG U|ROMANIAN U|UH|SLOAN U|OOH|OW|OU|WA|WO|WI|WEI|WOW",
   "1bc61 DUPLOYAN LETTER NASAL |U|O|I|A",
   "1bc65 DUPLOYAN LETTER |PERNIN AN|PERNIN AM|SLOAN EN|SLOAN AN|SLOAN ON|VOCALIC M",
   "1bc70 DUPLOYAN AFFIX |LEFT HORIZONTAL SECANT|MID HORIZONTAL SECANT",
   "1bc72 DUPLOYAN AFFIX |RIGHT HORIZONTAL SECANT|LOW VERTICAL SECANT|MID VERTICAL SECANT",
   "1bc75 DUPLOYAN AFFIX |HIGH VERTICAL SECANT|ATTACHED SECANT",
   "1bc77 DUPLOYAN AFFIX ATTACHED |LEFT-TO-RIGHT SECANT|TANGENT|TAIL|E HOOK|I HOOK|TANGENT HOOK",
   "1bc80 DUPLOYAN AFFIX HIGH |ACUTE|TIGHT ACUTE|GRAVE|LONG GRAVE|DOT|CIRCLE|LINE|WAVE|VERTICAL",
   "1bc90 |DUPLOYAN AFFIX LOW ACUTE",
   "1bc91 DUPLOYAN AFFIX LOW |TIGHT ACUTE|GRAVE|LONG GRAVE|DOT|CIRCLE|LINE|WAVE|VERTICAL|ARROW",
   "1bc9c |DUPLOYAN SIGN O WITH CROSS",
   "1bc9d DUPLOYAN |THICK LETTER SELECTOR|DOUBLE MARK|PUNCTUATION CHINOOK FULL STOP",
   "1bca0 SHORTHAND FORMAT |LETTER OVERLAP|CONTINUING OVERLAP|DOWN STEP|UP STEP",
   "1cf00 |ZNAMENNY COMBINING MARK GORAZDO NIZKO S KRYZHEM ON LEFT",
   "1cf01 ZNAMENNY COMBINING MARK |NIZKO S KRYZHEM ON LEFT|TSATA ON LEFT|GORAZDO NIZKO ON LEFT",
   "1cf04 ZNAMENNY COMBINING MARK |NIZKO ON LEFT|SREDNE ON LEFT|MALO POVYSHE ON LEFT",
   "1cf07 ZNAMENNY COMBINING MARK |POVYSHE ON LEFT|VYSOKO ON LEFT|MALO POVYSHE S KHOKHLOM ON LEFT",
   "1cf0a ZNAMENNY COMBINING MARK |POVYSHE S KHOKHLOM ON LEFT|VYSOKO S KHOKHLOM ON LEFT",
   "1cf0c ZNAMENNY COMBINING MARK |GORAZDO NIZKO S KRYZHEM ON RIGHT|NIZKO S KRYZHEM ON RIGHT",
   "1cf0e ZNAMENNY COMBINING MARK |TSATA ON RIGHT|GORAZDO NIZKO ON RIGHT|NIZKO ON RIGHT",
   "1cf11 ZNAMENNY COMBINING MARK |SREDNE ON RIGHT|MALO POVYSHE ON RIGHT|POVYSHE ON RIGHT",
   "1cf14 ZNAMENNY COMBINING MARK |VYSOKO ON RIGHT|MALO POVYSHE S KHOKHLOM ON RIGHT",
   "1cf16 ZNAMENNY COMBINING MARK |POVYSHE S KHOKHLOM ON RIGHT|VYSOKO S KHOKHLOM ON RIGHT",
   "1cf18 ZNAMENNY COMBINING MARK |TSATA S KRYZHEM|MALO POVYSHE S KRYZHEM|STRANNO MALO POVYSHE",
   "1cf1b ZNAMENNY COMBINING MARK POVYSHE |S KRYZHEM|STRANNO",
   "1cf1d ZNAMENNY COMBINING MARK |VYSOKO S KRYZHEM|MALO POVYSHE STRANNO|GORAZDO VYSOKO|ZELO|ON",
   "1cf22 ZNAMENNY COMBINING MARK |RAVNO|TIKHAYA|BORZAYA|UDARKA|PODVERTKA|LOMKA",
   "1cf28 ZNAMENNY COMBINING MARK |KUPNAYA|KACHKA|ZEVOK|SKOBA|RAZSEKA|KRYZH ON LEFT",
   "1cf30 ZNAMENNY COMBINING TONAL RANGE MARK |MRACHNO|SVETLO|TRESVETLO",
   "1cf33 ZNAMENNY COMBINING MARK |ZADERZHKA|DEMESTVENNY ZADERZHKA|OTSECHKA",
   "1cf36 ZNAMENNY COMBINING MARK |PODCHASHIE|PODCHASHIE WITH VERTICAL STROKE|CHASHKA",
   "1cf39 ZNAMENNY COMBINING MARK |CHASHKA POLNAYA|OBLACHKO|SOROCHYA NOZHKA|TOCHKA|DVOETOCHIE",
   "1cf3e |ZNAMENNY COMBINING ATTACHING VERTICAL OMET",
   "1cf3f ZNAMENNY COMBINING |MARK CURVED OMET|MARK KRYZH|LOWER TONAL RANGE INDICATOR",
   "1cf42 ZNAMENNY PRIZNAK MODIFIER |LEVEL-2|LEVEL-3|DIRECTION FLIP|KRYZH|ROG",
   "1cf50 ZNAMENNY NEUME |KRYUK|KRYUK TIKHY|PARAKLIT|DVA V CHELNU|KLYUCH",
   "1cf55 ZNAMENNY NEUME |ZANOZHEK|STOPITSA|STOPITSA S OCHKOM|PEREVODKA|PEREVODKA NEPOSTOYANNAYA",
   "1cf5a ZNAMENNY NEUME |STOPITSA WITH SOROCHYA NOZHKA|CHELYUSTKA|PALKA|ZAPYATAYA",
   "1cf5e ZNAMENNY NEUME GOLUBCHIK |BORZY|TIKHY|MRACHNY|SVETLY|TRESVETLY",
   "1cf63 ZNAMENNY NEUME VRAKHIYA |PROSTAYA|MRACHNAYA|SVETLAYA|TRESVETLAYA",
   "1cf67 ZNAMENNY NEUME VRAKHIYA KLYUCHEVAYA |PROSTAYA|MRACHNAYA|SVETLAYA|TRESVETLAYA",
   "1cf6b ZNAMENNY NEUME |DOUBLE ZAPYATAYA|REVERSED CHELYUSTKA|DERBITSA|KHAMILO|CHASHKA|PODCHASHIE",
   "1cf71 ZNAMENNY NEUME SKAMEYTSA |MRACHNAYA|SVETLAYA|TRESVETLAYA|TIKHAYA",
   "1cf75 |ZNAMENNY NEUME DEMESTVENNY KLYUCH",
   "1cf76 ZNAMENNY NEUME SKAMEYTSA |KLYUCHEVAYA SVETLAYA|KLYUCHENEPOSTOYANNAYA|KLYUCHEVAYA TIKHAYA",
   "1cf79 ZNAMENNY NEUME SKAMEYTSA DVOECHELNAYA |PROSTAYA|SVETLAYA|NEPOSTOYANNAYA|KLYUCHEVAYA",
   "1cf7d ZNAMENNY NEUME |SLOZHITIE|SLOZHITIE S ZAPYATOY|SLOZHITIE ZAKRYTOE",
   "1cf80 ZNAMENNY NEUME |SLOZHITIE S KRYZHEM|KRYZH|ROG|FITA|KOBYLA|ZMEYTSA|STATYA",
   "1cf87 ZNAMENNY NEUME STATYA S |ZAPYATOY|KRYZHEM|ZAPYATOY I KRYZHEM|KRYZHEM I ZAPYATOY",
   "1cf8b ZNAMENNY NEUME STATYA |ZAKRYTAYA|ZAKRYTAYA S ZAPYATOY|S ROGOM|S DVUMYA ZAPYATYMI",
   "1cf8f ZNAMENNY NEUME |STATYA S ZAPYATOY I PODCHASHIEM|POLKULIZMY|STATYA NEPOSTOYANNAYA",
   "1cf92 ZNAMENNY NEUME STRELA |PROSTAYA|MRACHNOTIKHAYA|KRYZHEVAYA|POLUPOVODNAYA",
   "1cf96 ZNAMENNY NEUME STRELA |POVODNAYA|NEPOSTOYANNAYA|KLYUCHEPOVODNAYA|KLYUCHENEPOSTOYANNAYA",
   "1cf9a ZNAMENNY NEUME STRELA |TIKHAYA PUTNAYA|DVOECHELNAYA",
   "1cf9c ZNAMENNY NEUME STRELA |DVOECHELNOKRYZHEVAYA|DVOECHELNOPOVODNAYA|DVOECHELNAYA KLYUCHEVAYA",
   "1cf9f ZNAMENNY NEUME STRELA |DVOECHELNOPOVODNAYA KLYUCHEVAYA|GROMNAYA WITH SINGLE ZAPYATAYA",
   "1cfa1 ZNAMENNY NEUME STRELA |GROMOPOVODNAYA WITH SINGLE ZAPYATAYA|GROMNAYA|GROMOPOVODNAYA",
   "1cfa4 ZNAMENNY NEUME STRELA |GROMOPOVODNAYA WITH DOUBLE ZAPYATAYA|GROMOKRYZHEVAYA",
   "1cfa6 ZNAMENNY NEUME |STRELA GROMOKRYZHEVAYA POVODNAYA|MECHIK|MECHIK POVODNY|MECHIK KLYUCHEVOY",
   "1cfaa ZNAMENNY NEUME |MECHIK KLYUCHEPOVODNY|MECHIK KLYUCHENEPOSTOYANNY|STRELA TRYASOGLASNAYA",
   "1cfad ZNAMENNY NEUME |STRELA TRYASOPOVODNAYA|STRELA TRYASOSTRELNAYA|OSOKA",
   "1cfb0 ZNAMENNY NEUME OSOKA |SVETLAYA|TRESVETLAYA|KRYUKOVAYA SVETLAYA|KLYUCHEVAYA SVETLAYA",
   "1cfb4 ZNAMENNY NEUME |OSOKA KLYUCHEVAYA NEPOSTOYANNAYA|STRELA KRYUKOVAYA",
   "1cfb6 ZNAMENNY NEUME STRELA KRYUKOVAYA |POVODNAYA|GROMNAYA WITH SINGLE ZAPYATAYA",
   "1cfb8 ZNAMENNY NEUME STRELA KRYUKOVAYA |GROMOPOVODNAYA WITH SINGLE ZAPYATAYA|GROMNAYA",
   "1cfba ZNAMENNY NEUME STRELA KRYUKOVAYA |GROMOPOVODNAYA|GROMOPOVODNAYA WITH DOUBLE ZAPYATAYA",
   "1cfbc ZNAMENNY NEUME STRELA KRYUKOVAYA |GROMOKRYZHEVAYA|GROMOKRYZHEVAYA POVODNAYA|TRYASKA",
   "1cfbf ZNAMENNY NEUME |KUFISMA|OBLAKO|DUDA|NEMKA|PAUK"]

end NextWord.Text.CharName
