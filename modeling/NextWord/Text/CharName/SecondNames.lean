/-!
# Second names of characters

Characters without a name of their own, such as controls, and some others go by further names:
corrections, figments, alternates and abbreviations of Unicode 14. The blocks are in order within
each of several rounds, one per further name of a character.
-/

namespace NextWord.Text.CharName

def secondNames : List String :=
  ["0 |NULL|START OF HEADING|START OF TEXT|END OF TEXT|END OF TRANSMISSION|ENQUIRY",
   "6 |ACKNOWLEDGE|ALERT|BACKSPACE|CHARACTER TABULATION|LINE FEED|LINE TABULATION|FORM FEED",
   "d |CARRIAGE RETURN|SHIFT OUT|SHIFT IN|DATA LINK ESCAPE|DEVICE CONTROL ONE",
   "12 |DEVICE CONTROL TWO|DEVICE CONTROL THREE|DEVICE CONTROL FOUR|NEGATIVE ACKNOWLEDGE",
   "16 |SYNCHRONOUS IDLE|END OF TRANSMISSION BLOCK|CANCEL|END OF MEDIUM|SUBSTITUTE|ESCAPE",
   "1c INFORMATION SEPARATOR |FOUR|THREE|TWO|ONE",
   "20 |SP",
   "7f |DELETE|PADDING CHARACTER|HIGH OCTET PRESET|BREAK PERMITTED HERE",
   "83 |NO BREAK HERE|INDEX|NEXT LINE|START OF SELECTED AREA|END OF SELECTED AREA",
   "88 CHARACTER TABULATION |SET|WITH JUSTIFICATION",
   "8a |LINE TABULATION SET|PARTIAL LINE FORWARD|PARTIAL LINE BACKWARD|REVERSE LINE FEED",
   "8e |SINGLE SHIFT TWO|SINGLE SHIFT THREE|DEVICE CONTROL STRING|PRIVATE USE ONE",
   "92 |PRIVATE USE TWO|SET TRANSMIT STATE|CANCEL CHARACTER|MESSAGE WAITING|START OF GUARDED AREA",
   "97 |END OF GUARDED AREA|START OF STRING|SINGLE GRAPHIC CHARACTER INTRODUCER",
   "9a |SINGLE CHARACTER INTRODUCER|CONTROL SEQUENCE INTRODUCER|STRING TERMINATOR",
   "9d |OPERATING SYSTEM COMMAND|PRIVACY MESSAGE|APPLICATION PROGRAM COMMAND|NBSP",
   "ad |SHY",
   "1a2 LATIN |CAPITAL LETTER GHA|SMALL LETTER GHA",
   "34f |CGJ",
   "61c |ALM",
   "709 |SYRIAC SUBLINEAR COLON SKEWED LEFT",
   "cde |KANNADA LETTER LLLA",
   "e9d |LAO LETTER FO FON",
   "e9f |LAO LETTER FO FAY",
   "ea3 |LAO LETTER RO",
   "ea5 |LAO LETTER LO",
   "fd0 |TIBETAN MARK BKA- SHOG GI MGO RGYAN",
   "11ec HANGUL JONGSEONG |YESIEUNG-KIYEOK|YESIEUNG-SSANGKIYEOK|SSANGYESIEUNG|YESIEUNG-KHIEUKH",
   "180b |FVS1|FVS2|FVS3|MVS|FVS4",
   "200b |ZWSP|ZWNJ|ZWJ|LRM|RLM",
   "202a |LRE|RLE|PDF|LRO|RLO|NNBSP",
   "205f |MMSP|WJ",
   "2066 |LRI|RLI|FSI|PDI",
   "2118 |WEIERSTRASS ELLIPTIC FUNCTION",
   "2448 MICR |ON US SYMBOL|DASH SYMBOL",
   "2b7a |LEFTWARDS TRIANGLE-HEADED ARROW WITH DOUBLE VERTICAL STROKE",
   "2b7c |RIGHTWARDS TRIANGLE-HEADED ARROW WITH DOUBLE VERTICAL STROKE",
   "a015 |YI SYLLABLE ITERATION MARK",
   "aa6e |MYANMAR LETTER KHAMTI LLA",
   "fe00 |VS1|VS2|VS3|VS4|VS5|VS6|VS7|VS8|VS9|VS10|VS11|VS12|VS13|VS14|VS15|VS16",
   "fe18 |PRESENTATION FORM FOR VERTICAL RIGHT WHITE LENTICULAR BRACKET",
   "feff |BYTE ORDER MARK",
   "122d4 CUNEIFORM SIGN NU11 |TENU|OVER NU11 BUR OVER BUR",
   "16e56 MEDEFAIDRIN CAPITAL LETTER |H|NG",
   "16e76 MEDEFAIDRIN SMALL LETTER |H|NG",
   "1b001 |HENTAIGANA LETTER E-1",
   "1d0c5 |BYZANTINE MUSICAL SYMBOL FTHORA SKLIRON CHROMA VASIS",
   "e0100 |VS17|VS18|VS19|VS20|VS21|VS22|VS23|VS24|VS25|VS26|VS27|VS28|VS29|VS30",
   "e010e |VS31|VS32|VS33|VS34|VS35|VS36|VS37|VS38|VS39|VS40|VS41|VS42|VS43|VS44|VS45|VS46|VS47",
   "e011f |VS48|VS49|VS50|VS51|VS52|VS53|VS54|VS55|VS56|VS57|VS58|VS59|VS60",
   "e012c |VS61|VS62|VS63|VS64|VS65|VS66|VS67|VS68|VS69|VS70|VS71|VS72|VS73|VS74|VS75",
   "e013b |VS76|VS77|VS78|VS79|VS80|VS81|VS82|VS83|VS84|VS85|VS86|VS87|VS88|VS89|VS90",
   "e014a |VS91|VS92|VS93|VS94|VS95|VS96|VS97|VS98|VS99|VS100|VS101|VS102|VS103|VS104",
   "e0158 |VS105|VS106|VS107|VS108|VS109|VS110|VS111|VS112|VS113|VS114|VS115|VS116|VS117",
   "e0165 |VS118|VS119|VS120|VS121|VS122|VS123|VS124|VS125|VS126|VS127|VS128|VS129|VS130",
   "e0172 |VS131|VS132|VS133|VS134|VS135|VS136|VS137|VS138|VS139|VS140|VS141|VS142|VS143|VS144",
   "e0180 |VS145|VS146|VS147|VS148|VS149|VS150|VS151|VS152|VS153|VS154|VS155|VS156|VS157|VS158",
   "e018e |VS159|VS160|VS161|VS162|VS163|VS164|VS165|VS166|VS167|VS168|VS169|VS170|VS171|VS172",
   "e019c |VS173|VS174|VS175|VS176|VS177|VS178|VS179|VS180|VS181|VS182|VS183|VS184|VS185|VS186",
   "e01aa |VS187|VS188|VS189|VS190|VS191|VS192|VS193|VS194|VS195|VS196|VS197|VS198|VS199|VS200",
   "e01b8 |VS201|VS202|VS203|VS204|VS205|VS206|VS207|VS208|VS209|VS210|VS211|VS212|VS213|VS214",
   "e01c6 |VS215|VS216|VS217|VS218|VS219|VS220|VS221|VS222|VS223|VS224|VS225|VS226|VS227|VS228",
   "e01d4 |VS229|VS230|VS231|VS232|VS233|VS234|VS235|VS236|VS237|VS238|VS239|VS240|VS241|VS242",
   "e01e2 |VS243|VS244|VS245|VS246|VS247|VS248|VS249|VS250|VS251|VS252|VS253|VS254|VS255|VS256",
   "0 |NUL|SOH|STX|ETX|EOT|ENQ|ACK|BEL|BS|HORIZONTAL TABULATION",
   "a |NEW LINE|VERTICAL TABULATION|FF|CR|LOCKING-SHIFT ONE|LOCKING-SHIFT ZERO|DLE|DC1|DC2|DC3|DC4",
   "15 |NAK|SYN|ETB|CAN|EOM|SUB|ESC|FILE SEPARATOR|GROUP SEPARATOR|RECORD SEPARATOR|UNIT SEPARATOR",
   "7f |DEL|PAD|HOP|BPH|NBH|IND|NEL|SSA|ESA",
   "88 HORIZONTAL TABULATION |SET|WITH JUSTIFICATION",
   "8a |VERTICAL TABULATION SET|PARTIAL LINE DOWN|PARTIAL LINE UP",
   "8d |REVERSE INDEX|SINGLE-SHIFT-2|SINGLE-SHIFT-3|DCS|PRIVATE USE-1|PRIVATE USE-2",
   "93 |STS|CCH|MW|START OF PROTECTED AREA|END OF PROTECTED AREA|SOS|SGC|SCI|CSI|ST|OSC|PM|APC",
   "feff |BOM",
   "9 |HT|END OF LINE|VT",
   "e |SO|SI",
   "1c |FS|GS|RS|US",
   "88 |HTS|HTJ|VTS|PLD|PLU|RI|SS2|SS3",
   "91 |PU1|PU2",
   "96 |SPA|EPA",
   "feff |ZWNBSP",
   "9 |TAB|LF",
   "a |NL",
   "a |EOL"]

end NextWord.Text.CharName
