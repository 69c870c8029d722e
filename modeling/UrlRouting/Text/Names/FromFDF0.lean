/-!
# Names of characters from U+FDF0 to U+11211

The names of Unicode 14.  Each entry gives the first of some characters in a row and their
names, one after the other, between semicolons and line ends.
-/

namespace UrlRouting.Text

/-- The names of the characters from U+FDF0 to U+11211. -/
def namesFromFDF0 : List (Nat × String) := [
  (0xfdf0, "ARABIC LIGATURE SALLA USED AS KORANIC STOP SIGN ISOLATED FORM
ARABIC LIGATURE QALA USED AS KORANIC STOP SIGN ISOLATED FORM;ARABIC LIGATURE ALLAH ISOLATED FORM
ARABIC LIGATURE AKBAR ISOLATED FORM;ARABIC LIGATURE MOHAMMAD ISOLATED FORM
ARABIC LIGATURE SALAM ISOLATED FORM;ARABIC LIGATURE RASOUL ISOLATED FORM
ARABIC LIGATURE ALAYHE ISOLATED FORM;ARABIC LIGATURE WASALLAM ISOLATED FORM
ARABIC LIGATURE SALLA ISOLATED FORM;ARABIC LIGATURE SALLALLAHOU ALAYHE WASALLAM
ARABIC LIGATURE JALLAJALALOUHOU;RIAL SIGN;ARABIC LIGATURE BISMILLAH AR-RAHMAN AR-RAHEEM
ARABIC LIGATURE SUBHAANAHU WA TAAALAA;ARABIC LIGATURE AZZA WA JALL;VARIATION SELECTOR-1
VARIATION SELECTOR-2;VARIATION SELECTOR-3;VARIATION SELECTOR-4;VARIATION SELECTOR-5
VARIATION SELECTOR-6;VARIATION SELECTOR-7;VARIATION SELECTOR-8;VARIATION SELECTOR-9
VARIATION SELECTOR-10;VARIATION SELECTOR-11;VARIATION SELECTOR-12;VARIATION SELECTOR-13
VARIATION SELECTOR-14;VARIATION SELECTOR-15;VARIATION SELECTOR-16
PRESENTATION FORM FOR VERTICAL COMMA;PRESENTATION FORM FOR VERTICAL IDEOGRAPHIC COMMA
PRESENTATION FORM FOR VERTICAL IDEOGRAPHIC FULL STOP;PRESENTATION FORM FOR VERTICAL COLON
PRESENTATION FORM FOR VERTICAL SEMICOLON;PRESENTATION FORM FOR VERTICAL EXCLAMATION MARK
PRESENTATION FORM FOR VERTICAL QUESTION MARK
PRESENTATION FORM FOR VERTICAL LEFT WHITE LENTICULAR BRACKET
PRESENTATION FORM FOR VERTICAL RIGHT WHITE LENTICULAR BRAKCET
PRESENTATION FORM FOR VERTICAL HORIZONTAL ELLIPSIS"),
  (0xfe20, "COMBINING LIGATURE LEFT HALF;COMBINING LIGATURE RIGHT HALF
COMBINING DOUBLE TILDE LEFT HALF;COMBINING DOUBLE TILDE RIGHT HALF;COMBINING MACRON LEFT HALF
COMBINING MACRON RIGHT HALF;COMBINING CONJOINING MACRON;COMBINING LIGATURE LEFT HALF BELOW
COMBINING LIGATURE RIGHT HALF BELOW;COMBINING TILDE LEFT HALF BELOW
COMBINING TILDE RIGHT HALF BELOW;COMBINING MACRON LEFT HALF BELOW
COMBINING MACRON RIGHT HALF BELOW;COMBINING CONJOINING MACRON BELOW
COMBINING CYRILLIC TITLO LEFT HALF;COMBINING CYRILLIC TITLO RIGHT HALF
PRESENTATION FORM FOR VERTICAL TWO DOT LEADER;PRESENTATION FORM FOR VERTICAL EM DASH
PRESENTATION FORM FOR VERTICAL EN DASH;PRESENTATION FORM FOR VERTICAL LOW LINE
PRESENTATION FORM FOR VERTICAL WAVY LOW LINE;PRESENTATION FORM FOR VERTICAL LEFT PARENTHESIS
PRESENTATION FORM FOR VERTICAL RIGHT PARENTHESIS
PRESENTATION FORM FOR VERTICAL LEFT CURLY BRACKET
PRESENTATION FORM FOR VERTICAL RIGHT CURLY BRACKET
PRESENTATION FORM FOR VERTICAL LEFT TORTOISE SHELL BRACKET
PRESENTATION FORM FOR VERTICAL RIGHT TORTOISE SHELL BRACKET
PRESENTATION FORM FOR VERTICAL LEFT BLACK LENTICULAR BRACKET
PRESENTATION FORM FOR VERTICAL RIGHT BLACK LENTICULAR BRACKET
PRESENTATION FORM FOR VERTICAL LEFT DOUBLE ANGLE BRACKET
PRESENTATION FORM FOR VERTICAL RIGHT DOUBLE ANGLE BRACKET
PRESENTATION FORM FOR VERTICAL LEFT ANGLE BRACKET
PRESENTATION FORM FOR VERTICAL RIGHT ANGLE BRACKET
PRESENTATION FORM FOR VERTICAL LEFT CORNER BRACKET
PRESENTATION FORM FOR VERTICAL RIGHT CORNER BRACKET
PRESENTATION FORM FOR VERTICAL LEFT WHITE CORNER BRACKET
PRESENTATION FORM FOR VERTICAL RIGHT WHITE CORNER BRACKET;SESAME DOT;WHITE SESAME DOT
PRESENTATION FORM FOR VERTICAL LEFT SQUARE BRACKET
PRESENTATION FORM FOR VERTICAL RIGHT SQUARE BRACKET;DASHED OVERLINE;CENTRELINE OVERLINE
WAVY OVERLINE;DOUBLE WAVY OVERLINE;DASHED LOW LINE;CENTRELINE LOW LINE;WAVY LOW LINE;SMALL COMMA
SMALL IDEOGRAPHIC COMMA;SMALL FULL STOP"),
  (0xfe54, "SMALL SEMICOLON;SMALL COLON;SMALL QUESTION MARK;SMALL EXCLAMATION MARK;SMALL EM DASH
SMALL LEFT PARENTHESIS;SMALL RIGHT PARENTHESIS;SMALL LEFT CURLY BRACKET;SMALL RIGHT CURLY BRACKET
SMALL LEFT TORTOISE SHELL BRACKET;SMALL RIGHT TORTOISE SHELL BRACKET;SMALL NUMBER SIGN
SMALL AMPERSAND;SMALL ASTERISK;SMALL PLUS SIGN;SMALL HYPHEN-MINUS;SMALL LESS-THAN SIGN
SMALL GREATER-THAN SIGN;SMALL EQUALS SIGN"),
  (0xfe68, "SMALL REVERSE SOLIDUS;SMALL DOLLAR SIGN;SMALL PERCENT SIGN;SMALL COMMERCIAL AT"),
  (0xfe70, "ARABIC FATHATAN ISOLATED FORM;ARABIC TATWEEL WITH FATHATAN ABOVE
ARABIC DAMMATAN ISOLATED FORM;ARABIC TAIL FRAGMENT;ARABIC KASRATAN ISOLATED FORM"),
  (0xfe76, "ARABIC FATHA ISOLATED FORM;ARABIC FATHA MEDIAL FORM;ARABIC DAMMA ISOLATED FORM
ARABIC DAMMA MEDIAL FORM;ARABIC KASRA ISOLATED FORM;ARABIC KASRA MEDIAL FORM
ARABIC SHADDA ISOLATED FORM;ARABIC SHADDA MEDIAL FORM;ARABIC SUKUN ISOLATED FORM
ARABIC SUKUN MEDIAL FORM;ARABIC LETTER HAMZA ISOLATED FORM
ARABIC LETTER ALEF WITH MADDA ABOVE ISOLATED FORM;ARABIC LETTER ALEF WITH MADDA ABOVE FINAL FORM
ARABIC LETTER ALEF WITH HAMZA ABOVE ISOLATED FORM;ARABIC LETTER ALEF WITH HAMZA ABOVE FINAL FORM
ARABIC LETTER WAW WITH HAMZA ABOVE ISOLATED FORM;ARABIC LETTER WAW WITH HAMZA ABOVE FINAL FORM
ARABIC LETTER ALEF WITH HAMZA BELOW ISOLATED FORM;ARABIC LETTER ALEF WITH HAMZA BELOW FINAL FORM
ARABIC LETTER YEH WITH HAMZA ABOVE ISOLATED FORM;ARABIC LETTER YEH WITH HAMZA ABOVE FINAL FORM
ARABIC LETTER YEH WITH HAMZA ABOVE INITIAL FORM;ARABIC LETTER YEH WITH HAMZA ABOVE MEDIAL FORM
ARABIC LETTER ALEF ISOLATED FORM;ARABIC LETTER ALEF FINAL FORM;ARABIC LETTER BEH ISOLATED FORM
ARABIC LETTER BEH FINAL FORM;ARABIC LETTER BEH INITIAL FORM;ARABIC LETTER BEH MEDIAL FORM
ARABIC LETTER TEH MARBUTA ISOLATED FORM;ARABIC LETTER TEH MARBUTA FINAL FORM
ARABIC LETTER TEH ISOLATED FORM;ARABIC LETTER TEH FINAL FORM;ARABIC LETTER TEH INITIAL FORM
ARABIC LETTER TEH MEDIAL FORM;ARABIC LETTER THEH ISOLATED FORM;ARABIC LETTER THEH FINAL FORM
ARABIC LETTER THEH INITIAL FORM;ARABIC LETTER THEH MEDIAL FORM;ARABIC LETTER JEEM ISOLATED FORM
ARABIC LETTER JEEM FINAL FORM;ARABIC LETTER JEEM INITIAL FORM;ARABIC LETTER JEEM MEDIAL FORM
ARABIC LETTER HAH ISOLATED FORM;ARABIC LETTER HAH FINAL FORM;ARABIC LETTER HAH INITIAL FORM
ARABIC LETTER HAH MEDIAL FORM;ARABIC LETTER KHAH ISOLATED FORM;ARABIC LETTER KHAH FINAL FORM
ARABIC LETTER KHAH INITIAL FORM;ARABIC LETTER KHAH MEDIAL FORM;ARABIC LETTER DAL ISOLATED FORM
ARABIC LETTER DAL FINAL FORM;ARABIC LETTER THAL ISOLATED FORM;ARABIC LETTER THAL FINAL FORM
ARABIC LETTER REH ISOLATED FORM;ARABIC LETTER REH FINAL FORM;ARABIC LETTER ZAIN ISOLATED FORM
ARABIC LETTER ZAIN FINAL FORM;ARABIC LETTER SEEN ISOLATED FORM;ARABIC LETTER SEEN FINAL FORM
ARABIC LETTER SEEN INITIAL FORM;ARABIC LETTER SEEN MEDIAL FORM;ARABIC LETTER SHEEN ISOLATED FORM
ARABIC LETTER SHEEN FINAL FORM;ARABIC LETTER SHEEN INITIAL FORM;ARABIC LETTER SHEEN MEDIAL FORM
ARABIC LETTER SAD ISOLATED FORM;ARABIC LETTER SAD FINAL FORM;ARABIC LETTER SAD INITIAL FORM
ARABIC LETTER SAD MEDIAL FORM;ARABIC LETTER DAD ISOLATED FORM;ARABIC LETTER DAD FINAL FORM
ARABIC LETTER DAD INITIAL FORM;ARABIC LETTER DAD MEDIAL FORM;ARABIC LETTER TAH ISOLATED FORM
ARABIC LETTER TAH FINAL FORM;ARABIC LETTER TAH INITIAL FORM;ARABIC LETTER TAH MEDIAL FORM
ARABIC LETTER ZAH ISOLATED FORM;ARABIC LETTER ZAH FINAL FORM;ARABIC LETTER ZAH INITIAL FORM
ARABIC LETTER ZAH MEDIAL FORM;ARABIC LETTER AIN ISOLATED FORM;ARABIC LETTER AIN FINAL FORM
ARABIC LETTER AIN INITIAL FORM;ARABIC LETTER AIN MEDIAL FORM;ARABIC LETTER GHAIN ISOLATED FORM
ARABIC LETTER GHAIN FINAL FORM;ARABIC LETTER GHAIN INITIAL FORM;ARABIC LETTER GHAIN MEDIAL FORM
ARABIC LETTER FEH ISOLATED FORM;ARABIC LETTER FEH FINAL FORM;ARABIC LETTER FEH INITIAL FORM
ARABIC LETTER FEH MEDIAL FORM;ARABIC LETTER QAF ISOLATED FORM;ARABIC LETTER QAF FINAL FORM
ARABIC LETTER QAF INITIAL FORM;ARABIC LETTER QAF MEDIAL FORM;ARABIC LETTER KAF ISOLATED FORM
ARABIC LETTER KAF FINAL FORM;ARABIC LETTER KAF INITIAL FORM;ARABIC LETTER KAF MEDIAL FORM
ARABIC LETTER LAM ISOLATED FORM;ARABIC LETTER LAM FINAL FORM;ARABIC LETTER LAM INITIAL FORM
ARABIC LETTER LAM MEDIAL FORM;ARABIC LETTER MEEM ISOLATED FORM;ARABIC LETTER MEEM FINAL FORM
ARABIC LETTER MEEM INITIAL FORM;ARABIC LETTER MEEM MEDIAL FORM;ARABIC LETTER NOON ISOLATED FORM
ARABIC LETTER NOON FINAL FORM;ARABIC LETTER NOON INITIAL FORM;ARABIC LETTER NOON MEDIAL FORM
ARABIC LETTER HEH ISOLATED FORM;ARABIC LETTER HEH FINAL FORM;ARABIC LETTER HEH INITIAL FORM
ARABIC LETTER HEH MEDIAL FORM;ARABIC LETTER WAW ISOLATED FORM;ARABIC LETTER WAW FINAL FORM
ARABIC LETTER ALEF MAKSURA ISOLATED FORM;ARABIC LETTER ALEF MAKSURA FINAL FORM
ARABIC LETTER YEH ISOLATED FORM;ARABIC LETTER YEH FINAL FORM;ARABIC LETTER YEH INITIAL FORM
ARABIC LETTER YEH MEDIAL FORM;ARABIC LIGATURE LAM WITH ALEF WITH MADDA ABOVE ISOLATED FORM
ARABIC LIGATURE LAM WITH ALEF WITH MADDA ABOVE FINAL FORM
ARABIC LIGATURE LAM WITH ALEF WITH HAMZA ABOVE ISOLATED FORM
ARABIC LIGATURE LAM WITH ALEF WITH HAMZA ABOVE FINAL FORM
ARABIC LIGATURE LAM WITH ALEF WITH HAMZA BELOW ISOLATED FORM
ARABIC LIGATURE LAM WITH ALEF WITH HAMZA BELOW FINAL FORM
ARABIC LIGATURE LAM WITH ALEF ISOLATED FORM;ARABIC LIGATURE LAM WITH ALEF FINAL FORM"),
  (0xfeff, "ZERO WIDTH NO-BREAK SPACE"),
  (0xff01, "FULLWIDTH EXCLAMATION MARK;FULLWIDTH QUOTATION MARK;FULLWIDTH NUMBER SIGN
FULLWIDTH DOLLAR SIGN;FULLWIDTH PERCENT SIGN;FULLWIDTH AMPERSAND;FULLWIDTH APOSTROPHE
FULLWIDTH LEFT PARENTHESIS;FULLWIDTH RIGHT PARENTHESIS;FULLWIDTH ASTERISK;FULLWIDTH PLUS SIGN
FULLWIDTH COMMA;FULLWIDTH HYPHEN-MINUS;FULLWIDTH FULL STOP;FULLWIDTH SOLIDUS;FULLWIDTH DIGIT ZERO
FULLWIDTH DIGIT ONE;FULLWIDTH DIGIT TWO;FULLWIDTH DIGIT THREE;FULLWIDTH DIGIT FOUR
FULLWIDTH DIGIT FIVE;FULLWIDTH DIGIT SIX;FULLWIDTH DIGIT SEVEN;FULLWIDTH DIGIT EIGHT
FULLWIDTH DIGIT NINE;FULLWIDTH COLON;FULLWIDTH SEMICOLON;FULLWIDTH LESS-THAN SIGN
FULLWIDTH EQUALS SIGN;FULLWIDTH GREATER-THAN SIGN;FULLWIDTH QUESTION MARK;FULLWIDTH COMMERCIAL AT
FULLWIDTH LATIN CAPITAL LETTER A;FULLWIDTH LATIN CAPITAL LETTER B
FULLWIDTH LATIN CAPITAL LETTER C;FULLWIDTH LATIN CAPITAL LETTER D
FULLWIDTH LATIN CAPITAL LETTER E;FULLWIDTH LATIN CAPITAL LETTER F
FULLWIDTH LATIN CAPITAL LETTER G;FULLWIDTH LATIN CAPITAL LETTER H
FULLWIDTH LATIN CAPITAL LETTER I;FULLWIDTH LATIN CAPITAL LETTER J
FULLWIDTH LATIN CAPITAL LETTER K;FULLWIDTH LATIN CAPITAL LETTER L
FULLWIDTH LATIN CAPITAL LETTER M;FULLWIDTH LATIN CAPITAL LETTER N
FULLWIDTH LATIN CAPITAL LETTER O;FULLWIDTH LATIN CAPITAL LETTER P
FULLWIDTH LATIN CAPITAL LETTER Q;FULLWIDTH LATIN CAPITAL LETTER R
FULLWIDTH LATIN CAPITAL LETTER S;FULLWIDTH LATIN CAPITAL LETTER T
FULLWIDTH LATIN CAPITAL LETTER U;FULLWIDTH LATIN CAPITAL LETTER V
FULLWIDTH LATIN CAPITAL LETTER W;FULLWIDTH LATIN CAPITAL LETTER X
FULLWIDTH LATIN CAPITAL LETTER Y;FULLWIDTH LATIN CAPITAL LETTER Z;FULLWIDTH LEFT SQUARE BRACKET
FULLWIDTH REVERSE SOLIDUS;FULLWIDTH RIGHT SQUARE BRACKET;FULLWIDTH CIRCUMFLEX ACCENT
FULLWIDTH LOW LINE;FULLWIDTH GRAVE ACCENT;FULLWIDTH LATIN SMALL LETTER A
FULLWIDTH LATIN SMALL LETTER B;FULLWIDTH LATIN SMALL LETTER C;FULLWIDTH LATIN SMALL LETTER D
FULLWIDTH LATIN SMALL LETTER E;FULLWIDTH LATIN SMALL LETTER F;FULLWIDTH LATIN SMALL LETTER G
FULLWIDTH LATIN SMALL LETTER H;FULLWIDTH LATIN SMALL LETTER I;FULLWIDTH LATIN SMALL LETTER J
FULLWIDTH LATIN SMALL LETTER K;FULLWIDTH LATIN SMALL LETTER L;FULLWIDTH LATIN SMALL LETTER M
FULLWIDTH LATIN SMALL LETTER N;FULLWIDTH LATIN SMALL LETTER O;FULLWIDTH LATIN SMALL LETTER P
FULLWIDTH LATIN SMALL LETTER Q;FULLWIDTH LATIN SMALL LETTER R;FULLWIDTH LATIN SMALL LETTER S
FULLWIDTH LATIN SMALL LETTER T;FULLWIDTH LATIN SMALL LETTER U;FULLWIDTH LATIN SMALL LETTER V
FULLWIDTH LATIN SMALL LETTER W;FULLWIDTH LATIN SMALL LETTER X;FULLWIDTH LATIN SMALL LETTER Y
FULLWIDTH LATIN SMALL LETTER Z;FULLWIDTH LEFT CURLY BRACKET;FULLWIDTH VERTICAL LINE
FULLWIDTH RIGHT CURLY BRACKET;FULLWIDTH TILDE;FULLWIDTH LEFT WHITE PARENTHESIS
FULLWIDTH RIGHT WHITE PARENTHESIS;HALFWIDTH IDEOGRAPHIC FULL STOP;HALFWIDTH LEFT CORNER BRACKET
HALFWIDTH RIGHT CORNER BRACKET;HALFWIDTH IDEOGRAPHIC COMMA;HALFWIDTH KATAKANA MIDDLE DOT
HALFWIDTH KATAKANA LETTER WO;HALFWIDTH KATAKANA LETTER SMALL A;HALFWIDTH KATAKANA LETTER SMALL I
HALFWIDTH KATAKANA LETTER SMALL U;HALFWIDTH KATAKANA LETTER SMALL E
HALFWIDTH KATAKANA LETTER SMALL O;HALFWIDTH KATAKANA LETTER SMALL YA
HALFWIDTH KATAKANA LETTER SMALL YU;HALFWIDTH KATAKANA LETTER SMALL YO
HALFWIDTH KATAKANA LETTER SMALL TU;HALFWIDTH KATAKANA-HIRAGANA PROLONGED SOUND MARK
HALFWIDTH KATAKANA LETTER A;HALFWIDTH KATAKANA LETTER I;HALFWIDTH KATAKANA LETTER U
HALFWIDTH KATAKANA LETTER E;HALFWIDTH KATAKANA LETTER O;HALFWIDTH KATAKANA LETTER KA
HALFWIDTH KATAKANA LETTER KI;HALFWIDTH KATAKANA LETTER KU;HALFWIDTH KATAKANA LETTER KE
HALFWIDTH KATAKANA LETTER KO;HALFWIDTH KATAKANA LETTER SA;HALFWIDTH KATAKANA LETTER SI
HALFWIDTH KATAKANA LETTER SU;HALFWIDTH KATAKANA LETTER SE;HALFWIDTH KATAKANA LETTER SO
HALFWIDTH KATAKANA LETTER TA;HALFWIDTH KATAKANA LETTER TI;HALFWIDTH KATAKANA LETTER TU
HALFWIDTH KATAKANA LETTER TE;HALFWIDTH KATAKANA LETTER TO;HALFWIDTH KATAKANA LETTER NA
HALFWIDTH KATAKANA LETTER NI;HALFWIDTH KATAKANA LETTER NU;HALFWIDTH KATAKANA LETTER NE
HALFWIDTH KATAKANA LETTER NO;HALFWIDTH KATAKANA LETTER HA;HALFWIDTH KATAKANA LETTER HI
HALFWIDTH KATAKANA LETTER HU;HALFWIDTH KATAKANA LETTER HE;HALFWIDTH KATAKANA LETTER HO
HALFWIDTH KATAKANA LETTER MA;HALFWIDTH KATAKANA LETTER MI;HALFWIDTH KATAKANA LETTER MU
HALFWIDTH KATAKANA LETTER ME;HALFWIDTH KATAKANA LETTER MO;HALFWIDTH KATAKANA LETTER YA
HALFWIDTH KATAKANA LETTER YU;HALFWIDTH KATAKANA LETTER YO;HALFWIDTH KATAKANA LETTER RA
HALFWIDTH KATAKANA LETTER RI;HALFWIDTH KATAKANA LETTER RU;HALFWIDTH KATAKANA LETTER RE
HALFWIDTH KATAKANA LETTER RO;HALFWIDTH KATAKANA LETTER WA;HALFWIDTH KATAKANA LETTER N
HALFWIDTH KATAKANA VOICED SOUND MARK;HALFWIDTH KATAKANA SEMI-VOICED SOUND MARK
HALFWIDTH HANGUL FILLER;HALFWIDTH HANGUL LETTER KIYEOK;HALFWIDTH HANGUL LETTER SSANGKIYEOK
HALFWIDTH HANGUL LETTER KIYEOK-SIOS;HALFWIDTH HANGUL LETTER NIEUN
HALFWIDTH HANGUL LETTER NIEUN-CIEUC;HALFWIDTH HANGUL LETTER NIEUN-HIEUH
HALFWIDTH HANGUL LETTER TIKEUT;HALFWIDTH HANGUL LETTER SSANGTIKEUT;HALFWIDTH HANGUL LETTER RIEUL
HALFWIDTH HANGUL LETTER RIEUL-KIYEOK;HALFWIDTH HANGUL LETTER RIEUL-MIEUM
HALFWIDTH HANGUL LETTER RIEUL-PIEUP;HALFWIDTH HANGUL LETTER RIEUL-SIOS
HALFWIDTH HANGUL LETTER RIEUL-THIEUTH;HALFWIDTH HANGUL LETTER RIEUL-PHIEUPH
HALFWIDTH HANGUL LETTER RIEUL-HIEUH;HALFWIDTH HANGUL LETTER MIEUM;HALFWIDTH HANGUL LETTER PIEUP
HALFWIDTH HANGUL LETTER SSANGPIEUP;HALFWIDTH HANGUL LETTER PIEUP-SIOS
HALFWIDTH HANGUL LETTER SIOS;HALFWIDTH HANGUL LETTER SSANGSIOS;HALFWIDTH HANGUL LETTER IEUNG
HALFWIDTH HANGUL LETTER CIEUC;HALFWIDTH HANGUL LETTER SSANGCIEUC;HALFWIDTH HANGUL LETTER CHIEUCH
HALFWIDTH HANGUL LETTER KHIEUKH;HALFWIDTH HANGUL LETTER THIEUTH;HALFWIDTH HANGUL LETTER PHIEUPH
HALFWIDTH HANGUL LETTER HIEUH"),
  (0xffc2, "HALFWIDTH HANGUL LETTER A;HALFWIDTH HANGUL LETTER AE;HALFWIDTH HANGUL LETTER YA
HALFWIDTH HANGUL LETTER YAE;HALFWIDTH HANGUL LETTER EO;HALFWIDTH HANGUL LETTER E"),
  (0xffca, "HALFWIDTH HANGUL LETTER YEO;HALFWIDTH HANGUL LETTER YE;HALFWIDTH HANGUL LETTER O
HALFWIDTH HANGUL LETTER WA;HALFWIDTH HANGUL LETTER WAE;HALFWIDTH HANGUL LETTER OE"),
  (0xffd2, "HALFWIDTH HANGUL LETTER YO;HALFWIDTH HANGUL LETTER U;HALFWIDTH HANGUL LETTER WEO
HALFWIDTH HANGUL LETTER WE;HALFWIDTH HANGUL LETTER WI;HALFWIDTH HANGUL LETTER YU"),
  (0xffda, "HALFWIDTH HANGUL LETTER EU;HALFWIDTH HANGUL LETTER YI;HALFWIDTH HANGUL LETTER I"),
  (0xffe0, "FULLWIDTH CENT SIGN;FULLWIDTH POUND SIGN;FULLWIDTH NOT SIGN;FULLWIDTH MACRON
FULLWIDTH BROKEN BAR;FULLWIDTH YEN SIGN;FULLWIDTH WON SIGN"),
  (0xffe8, "HALFWIDTH FORMS LIGHT VERTICAL;HALFWIDTH LEFTWARDS ARROW;HALFWIDTH UPWARDS ARROW
HALFWIDTH RIGHTWARDS ARROW;HALFWIDTH DOWNWARDS ARROW;HALFWIDTH BLACK SQUARE
HALFWIDTH WHITE CIRCLE"),
  (0xfff9, "INTERLINEAR ANNOTATION ANCHOR;INTERLINEAR ANNOTATION SEPARATOR
INTERLINEAR ANNOTATION TERMINATOR;OBJECT REPLACEMENT CHARACTER;REPLACEMENT CHARACTER"),
  (0x10000, "LINEAR B SYLLABLE B008 A;LINEAR B SYLLABLE B038 E;LINEAR B SYLLABLE B028 I
LINEAR B SYLLABLE B061 O;LINEAR B SYLLABLE B010 U;LINEAR B SYLLABLE B001 DA
LINEAR B SYLLABLE B045 DE;LINEAR B SYLLABLE B007 DI;LINEAR B SYLLABLE B014 DO
LINEAR B SYLLABLE B051 DU;LINEAR B SYLLABLE B057 JA;LINEAR B SYLLABLE B046 JE"),
  (0x1000d, "LINEAR B SYLLABLE B036 JO;LINEAR B SYLLABLE B065 JU;LINEAR B SYLLABLE B077 KA
LINEAR B SYLLABLE B044 KE;LINEAR B SYLLABLE B067 KI;LINEAR B SYLLABLE B070 KO
LINEAR B SYLLABLE B081 KU;LINEAR B SYLLABLE B080 MA;LINEAR B SYLLABLE B013 ME
LINEAR B SYLLABLE B073 MI;LINEAR B SYLLABLE B015 MO;LINEAR B SYLLABLE B023 MU
LINEAR B SYLLABLE B006 NA;LINEAR B SYLLABLE B024 NE;LINEAR B SYLLABLE B030 NI
LINEAR B SYLLABLE B052 NO;LINEAR B SYLLABLE B055 NU;LINEAR B SYLLABLE B003 PA
LINEAR B SYLLABLE B072 PE;LINEAR B SYLLABLE B039 PI;LINEAR B SYLLABLE B011 PO
LINEAR B SYLLABLE B050 PU;LINEAR B SYLLABLE B016 QA;LINEAR B SYLLABLE B078 QE
LINEAR B SYLLABLE B021 QI;LINEAR B SYLLABLE B032 QO"),
  (0x10028, "LINEAR B SYLLABLE B060 RA;LINEAR B SYLLABLE B027 RE;LINEAR B SYLLABLE B053 RI
LINEAR B SYLLABLE B002 RO;LINEAR B SYLLABLE B026 RU;LINEAR B SYLLABLE B031 SA
LINEAR B SYLLABLE B009 SE;LINEAR B SYLLABLE B041 SI;LINEAR B SYLLABLE B012 SO
LINEAR B SYLLABLE B058 SU;LINEAR B SYLLABLE B059 TA;LINEAR B SYLLABLE B004 TE
LINEAR B SYLLABLE B037 TI;LINEAR B SYLLABLE B005 TO;LINEAR B SYLLABLE B069 TU
LINEAR B SYLLABLE B054 WA;LINEAR B SYLLABLE B075 WE;LINEAR B SYLLABLE B040 WI
LINEAR B SYLLABLE B042 WO"),
  (0x1003c, "LINEAR B SYLLABLE B017 ZA;LINEAR B SYLLABLE B074 ZE"),
  (0x1003f, "LINEAR B SYLLABLE B020 ZO;LINEAR B SYLLABLE B025 A2;LINEAR B SYLLABLE B043 A3
LINEAR B SYLLABLE B085 AU;LINEAR B SYLLABLE B071 DWE;LINEAR B SYLLABLE B090 DWO
LINEAR B SYLLABLE B048 NWA;LINEAR B SYLLABLE B029 PU2;LINEAR B SYLLABLE B062 PTE
LINEAR B SYLLABLE B076 RA2;LINEAR B SYLLABLE B033 RA3;LINEAR B SYLLABLE B068 RO2
LINEAR B SYLLABLE B066 TA2;LINEAR B SYLLABLE B087 TWE;LINEAR B SYLLABLE B091 TWO"),
  (0x10050, "LINEAR B SYMBOL B018;LINEAR B SYMBOL B019;LINEAR B SYMBOL B022;LINEAR B SYMBOL B034
LINEAR B SYMBOL B047;LINEAR B SYMBOL B049;LINEAR B SYMBOL B056;LINEAR B SYMBOL B063
LINEAR B SYMBOL B064;LINEAR B SYMBOL B079;LINEAR B SYMBOL B082;LINEAR B SYMBOL B083
LINEAR B SYMBOL B086;LINEAR B SYMBOL B089"),
  (0x10080, "LINEAR B IDEOGRAM B100 MAN;LINEAR B IDEOGRAM B102 WOMAN;LINEAR B IDEOGRAM B104 DEER
LINEAR B IDEOGRAM B105 EQUID;LINEAR B IDEOGRAM B105F MARE;LINEAR B IDEOGRAM B105M STALLION
LINEAR B IDEOGRAM B106F EWE;LINEAR B IDEOGRAM B106M RAM;LINEAR B IDEOGRAM B107F SHE-GOAT
LINEAR B IDEOGRAM B107M HE-GOAT;LINEAR B IDEOGRAM B108F SOW;LINEAR B IDEOGRAM B108M BOAR
LINEAR B IDEOGRAM B109F COW;LINEAR B IDEOGRAM B109M BULL;LINEAR B IDEOGRAM B120 WHEAT
LINEAR B IDEOGRAM B121 BARLEY;LINEAR B IDEOGRAM B122 OLIVE;LINEAR B IDEOGRAM B123 SPICE
LINEAR B IDEOGRAM B125 CYPERUS;LINEAR B MONOGRAM B127 KAPO;LINEAR B MONOGRAM B128 KANAKO
LINEAR B IDEOGRAM B130 OIL;LINEAR B IDEOGRAM B131 WINE;LINEAR B IDEOGRAM B132
LINEAR B MONOGRAM B133 AREPA;LINEAR B MONOGRAM B135 MERI;LINEAR B IDEOGRAM B140 BRONZE
LINEAR B IDEOGRAM B141 GOLD;LINEAR B IDEOGRAM B142;LINEAR B IDEOGRAM B145 WOOL
LINEAR B IDEOGRAM B146;LINEAR B IDEOGRAM B150;LINEAR B IDEOGRAM B151 HORN;LINEAR B IDEOGRAM B152
LINEAR B IDEOGRAM B153;LINEAR B IDEOGRAM B154;LINEAR B MONOGRAM B156 TURO2;LINEAR B IDEOGRAM B157
LINEAR B IDEOGRAM B158;LINEAR B IDEOGRAM B159 CLOTH;LINEAR B IDEOGRAM B160;LINEAR B IDEOGRAM B161
LINEAR B IDEOGRAM B162 GARMENT;LINEAR B IDEOGRAM B163 ARMOUR;LINEAR B IDEOGRAM B164
LINEAR B IDEOGRAM B165;LINEAR B IDEOGRAM B166;LINEAR B IDEOGRAM B167;LINEAR B IDEOGRAM B168
LINEAR B IDEOGRAM B169;LINEAR B IDEOGRAM B170;LINEAR B IDEOGRAM B171;LINEAR B IDEOGRAM B172
LINEAR B IDEOGRAM B173 MONTH;LINEAR B IDEOGRAM B174;LINEAR B IDEOGRAM B176 TREE
LINEAR B IDEOGRAM B177;LINEAR B IDEOGRAM B178;LINEAR B IDEOGRAM B179;LINEAR B IDEOGRAM B180
LINEAR B IDEOGRAM B181;LINEAR B IDEOGRAM B182;LINEAR B IDEOGRAM B183;LINEAR B IDEOGRAM B184
LINEAR B IDEOGRAM B185;LINEAR B IDEOGRAM B189;LINEAR B IDEOGRAM B190
LINEAR B IDEOGRAM B191 HELMET;LINEAR B IDEOGRAM B220 FOOTSTOOL;LINEAR B IDEOGRAM B225 BATHTUB
LINEAR B IDEOGRAM B230 SPEAR;LINEAR B IDEOGRAM B231 ARROW;LINEAR B IDEOGRAM B232
LINEAR B IDEOGRAM B233 SWORD;LINEAR B IDEOGRAM B234;LINEAR B IDEOGRAM B236
LINEAR B IDEOGRAM B240 WHEELED CHARIOT;LINEAR B IDEOGRAM B241 CHARIOT
LINEAR B IDEOGRAM B242 CHARIOT FRAME;LINEAR B IDEOGRAM B243 WHEEL;LINEAR B IDEOGRAM B245
LINEAR B IDEOGRAM B246;LINEAR B MONOGRAM B247 DIPTE;LINEAR B IDEOGRAM B248;LINEAR B IDEOGRAM B249
LINEAR B IDEOGRAM B251;LINEAR B IDEOGRAM B252;LINEAR B IDEOGRAM B253;LINEAR B IDEOGRAM B254 DART
LINEAR B IDEOGRAM B255;LINEAR B IDEOGRAM B256;LINEAR B IDEOGRAM B257;LINEAR B IDEOGRAM B258
LINEAR B IDEOGRAM B259;LINEAR B IDEOGRAM VESSEL B155;LINEAR B IDEOGRAM VESSEL B200
LINEAR B IDEOGRAM VESSEL B201;LINEAR B IDEOGRAM VESSEL B202;LINEAR B IDEOGRAM VESSEL B203
LINEAR B IDEOGRAM VESSEL B204;LINEAR B IDEOGRAM VESSEL B205;LINEAR B IDEOGRAM VESSEL B206
LINEAR B IDEOGRAM VESSEL B207;LINEAR B IDEOGRAM VESSEL B208;LINEAR B IDEOGRAM VESSEL B209
LINEAR B IDEOGRAM VESSEL B210;LINEAR B IDEOGRAM VESSEL B211;LINEAR B IDEOGRAM VESSEL B212
LINEAR B IDEOGRAM VESSEL B213;LINEAR B IDEOGRAM VESSEL B214;LINEAR B IDEOGRAM VESSEL B215
LINEAR B IDEOGRAM VESSEL B216;LINEAR B IDEOGRAM VESSEL B217;LINEAR B IDEOGRAM VESSEL B218
LINEAR B IDEOGRAM VESSEL B219;LINEAR B IDEOGRAM VESSEL B221;LINEAR B IDEOGRAM VESSEL B222
LINEAR B IDEOGRAM VESSEL B226;LINEAR B IDEOGRAM VESSEL B227;LINEAR B IDEOGRAM VESSEL B228
LINEAR B IDEOGRAM VESSEL B229;LINEAR B IDEOGRAM VESSEL B250;LINEAR B IDEOGRAM VESSEL B305"),
  (0x10100, "AEGEAN WORD SEPARATOR LINE;AEGEAN WORD SEPARATOR DOT;AEGEAN CHECK MARK"),
  (0x10107, "AEGEAN NUMBER ONE;AEGEAN NUMBER TWO;AEGEAN NUMBER THREE;AEGEAN NUMBER FOUR
AEGEAN NUMBER FIVE;AEGEAN NUMBER SIX;AEGEAN NUMBER SEVEN;AEGEAN NUMBER EIGHT;AEGEAN NUMBER NINE
AEGEAN NUMBER TEN;AEGEAN NUMBER TWENTY;AEGEAN NUMBER THIRTY;AEGEAN NUMBER FORTY
AEGEAN NUMBER FIFTY;AEGEAN NUMBER SIXTY;AEGEAN NUMBER SEVENTY;AEGEAN NUMBER EIGHTY
AEGEAN NUMBER NINETY;AEGEAN NUMBER ONE HUNDRED;AEGEAN NUMBER TWO HUNDRED
AEGEAN NUMBER THREE HUNDRED;AEGEAN NUMBER FOUR HUNDRED;AEGEAN NUMBER FIVE HUNDRED
AEGEAN NUMBER SIX HUNDRED;AEGEAN NUMBER SEVEN HUNDRED;AEGEAN NUMBER EIGHT HUNDRED
AEGEAN NUMBER NINE HUNDRED;AEGEAN NUMBER ONE THOUSAND;AEGEAN NUMBER TWO THOUSAND
AEGEAN NUMBER THREE THOUSAND;AEGEAN NUMBER FOUR THOUSAND;AEGEAN NUMBER FIVE THOUSAND
AEGEAN NUMBER SIX THOUSAND;AEGEAN NUMBER SEVEN THOUSAND;AEGEAN NUMBER EIGHT THOUSAND
AEGEAN NUMBER NINE THOUSAND;AEGEAN NUMBER TEN THOUSAND;AEGEAN NUMBER TWENTY THOUSAND
AEGEAN NUMBER THIRTY THOUSAND;AEGEAN NUMBER FORTY THOUSAND;AEGEAN NUMBER FIFTY THOUSAND
AEGEAN NUMBER SIXTY THOUSAND;AEGEAN NUMBER SEVENTY THOUSAND;AEGEAN NUMBER EIGHTY THOUSAND
AEGEAN NUMBER NINETY THOUSAND"),
  (0x10137, "AEGEAN WEIGHT BASE UNIT;AEGEAN WEIGHT FIRST SUBUNIT;AEGEAN WEIGHT SECOND SUBUNIT
AEGEAN WEIGHT THIRD SUBUNIT;AEGEAN WEIGHT FOURTH SUBUNIT;AEGEAN DRY MEASURE FIRST SUBUNIT
AEGEAN LIQUID MEASURE FIRST SUBUNIT;AEGEAN MEASURE SECOND SUBUNIT;AEGEAN MEASURE THIRD SUBUNIT
GREEK ACROPHONIC ATTIC ONE QUARTER;GREEK ACROPHONIC ATTIC ONE HALF
GREEK ACROPHONIC ATTIC ONE DRACHMA;GREEK ACROPHONIC ATTIC FIVE;GREEK ACROPHONIC ATTIC FIFTY
GREEK ACROPHONIC ATTIC FIVE HUNDRED;GREEK ACROPHONIC ATTIC FIVE THOUSAND
GREEK ACROPHONIC ATTIC FIFTY THOUSAND;GREEK ACROPHONIC ATTIC FIVE TALENTS
GREEK ACROPHONIC ATTIC TEN TALENTS;GREEK ACROPHONIC ATTIC FIFTY TALENTS
GREEK ACROPHONIC ATTIC ONE HUNDRED TALENTS;GREEK ACROPHONIC ATTIC FIVE HUNDRED TALENTS
GREEK ACROPHONIC ATTIC ONE THOUSAND TALENTS;GREEK ACROPHONIC ATTIC FIVE THOUSAND TALENTS
GREEK ACROPHONIC ATTIC FIVE STATERS;GREEK ACROPHONIC ATTIC TEN STATERS
GREEK ACROPHONIC ATTIC FIFTY STATERS;GREEK ACROPHONIC ATTIC ONE HUNDRED STATERS
GREEK ACROPHONIC ATTIC FIVE HUNDRED STATERS;GREEK ACROPHONIC ATTIC ONE THOUSAND STATERS
GREEK ACROPHONIC ATTIC TEN THOUSAND STATERS;GREEK ACROPHONIC ATTIC FIFTY THOUSAND STATERS
GREEK ACROPHONIC ATTIC TEN MNAS;GREEK ACROPHONIC HERAEUM ONE PLETHRON
GREEK ACROPHONIC THESPIAN ONE;GREEK ACROPHONIC HERMIONIAN ONE;GREEK ACROPHONIC EPIDAUREAN TWO
GREEK ACROPHONIC THESPIAN TWO;GREEK ACROPHONIC CYRENAIC TWO DRACHMAS
GREEK ACROPHONIC EPIDAUREAN TWO DRACHMAS;GREEK ACROPHONIC TROEZENIAN FIVE
GREEK ACROPHONIC TROEZENIAN TEN;GREEK ACROPHONIC TROEZENIAN TEN ALTERNATE FORM
GREEK ACROPHONIC HERMIONIAN TEN;GREEK ACROPHONIC MESSENIAN TEN;GREEK ACROPHONIC THESPIAN TEN
GREEK ACROPHONIC THESPIAN THIRTY;GREEK ACROPHONIC TROEZENIAN FIFTY
GREEK ACROPHONIC TROEZENIAN FIFTY ALTERNATE FORM;GREEK ACROPHONIC HERMIONIAN FIFTY
GREEK ACROPHONIC THESPIAN FIFTY;GREEK ACROPHONIC THESPIAN ONE HUNDRED
GREEK ACROPHONIC THESPIAN THREE HUNDRED;GREEK ACROPHONIC EPIDAUREAN FIVE HUNDRED
GREEK ACROPHONIC TROEZENIAN FIVE HUNDRED;GREEK ACROPHONIC THESPIAN FIVE HUNDRED
GREEK ACROPHONIC CARYSTIAN FIVE HUNDRED;GREEK ACROPHONIC NAXIAN FIVE HUNDRED
GREEK ACROPHONIC THESPIAN ONE THOUSAND;GREEK ACROPHONIC THESPIAN FIVE THOUSAND
GREEK ACROPHONIC DELPHIC FIVE MNAS;GREEK ACROPHONIC STRATIAN FIFTY MNAS;GREEK ONE HALF SIGN
GREEK ONE HALF SIGN ALTERNATE FORM;GREEK TWO THIRDS SIGN;GREEK THREE QUARTERS SIGN
GREEK YEAR SIGN;GREEK TALENT SIGN;GREEK DRACHMA SIGN;GREEK OBOL SIGN;GREEK TWO OBOLS SIGN
GREEK THREE OBOLS SIGN;GREEK FOUR OBOLS SIGN;GREEK FIVE OBOLS SIGN;GREEK METRETES SIGN
GREEK KYATHOS BASE SIGN;GREEK LITRA SIGN;GREEK OUNKIA SIGN;GREEK XESTES SIGN;GREEK ARTABE SIGN
GREEK AROURA SIGN;GREEK GRAMMA SIGN;GREEK TRYBLION BASE SIGN;GREEK ZERO SIGN
GREEK ONE QUARTER SIGN;GREEK SINUSOID SIGN;GREEK INDICTION SIGN;NOMISMA SIGN"),
  (0x10190, "ROMAN SEXTANS SIGN;ROMAN UNCIA SIGN;ROMAN SEMUNCIA SIGN;ROMAN SEXTULA SIGN
ROMAN DIMIDIA SEXTULA SIGN;ROMAN SILIQUA SIGN;ROMAN DENARIUS SIGN;ROMAN QUINARIUS SIGN
ROMAN SESTERTIUS SIGN;ROMAN DUPONDIUS SIGN;ROMAN AS SIGN;ROMAN CENTURIAL SIGN;ASCIA SYMBOL"),
  (0x101a0, "GREEK SYMBOL TAU RHO"),
  (0x101d0, "PHAISTOS DISC SIGN PEDESTRIAN;PHAISTOS DISC SIGN PLUMED HEAD
PHAISTOS DISC SIGN TATTOOED HEAD;PHAISTOS DISC SIGN CAPTIVE;PHAISTOS DISC SIGN CHILD
PHAISTOS DISC SIGN WOMAN;PHAISTOS DISC SIGN HELMET;PHAISTOS DISC SIGN GAUNTLET
PHAISTOS DISC SIGN TIARA;PHAISTOS DISC SIGN ARROW;PHAISTOS DISC SIGN BOW
PHAISTOS DISC SIGN SHIELD;PHAISTOS DISC SIGN CLUB;PHAISTOS DISC SIGN MANACLES
PHAISTOS DISC SIGN MATTOCK;PHAISTOS DISC SIGN SAW;PHAISTOS DISC SIGN LID
PHAISTOS DISC SIGN BOOMERANG;PHAISTOS DISC SIGN CARPENTRY PLANE;PHAISTOS DISC SIGN DOLIUM
PHAISTOS DISC SIGN COMB;PHAISTOS DISC SIGN SLING;PHAISTOS DISC SIGN COLUMN
PHAISTOS DISC SIGN BEEHIVE;PHAISTOS DISC SIGN SHIP;PHAISTOS DISC SIGN HORN
PHAISTOS DISC SIGN HIDE;PHAISTOS DISC SIGN BULLS LEG;PHAISTOS DISC SIGN CAT
PHAISTOS DISC SIGN RAM;PHAISTOS DISC SIGN EAGLE;PHAISTOS DISC SIGN DOVE;PHAISTOS DISC SIGN TUNNY
PHAISTOS DISC SIGN BEE;PHAISTOS DISC SIGN PLANE TREE;PHAISTOS DISC SIGN VINE
PHAISTOS DISC SIGN PAPYRUS;PHAISTOS DISC SIGN ROSETTE;PHAISTOS DISC SIGN LILY
PHAISTOS DISC SIGN OX BACK;PHAISTOS DISC SIGN FLUTE;PHAISTOS DISC SIGN GRATER
PHAISTOS DISC SIGN STRAINER;PHAISTOS DISC SIGN SMALL AXE;PHAISTOS DISC SIGN WAVY BAND
PHAISTOS DISC SIGN COMBINING OBLIQUE STROKE"),
  (0x10280, "LYCIAN LETTER A;LYCIAN LETTER E;LYCIAN LETTER B;LYCIAN LETTER BH;LYCIAN LETTER G
LYCIAN LETTER D;LYCIAN LETTER I;LYCIAN LETTER W;LYCIAN LETTER Z;LYCIAN LETTER TH;LYCIAN LETTER J
LYCIAN LETTER K;LYCIAN LETTER Q;LYCIAN LETTER L;LYCIAN LETTER M;LYCIAN LETTER N;LYCIAN LETTER MM
LYCIAN LETTER NN;LYCIAN LETTER U;LYCIAN LETTER P;LYCIAN LETTER KK;LYCIAN LETTER R;LYCIAN LETTER S
LYCIAN LETTER T;LYCIAN LETTER TT;LYCIAN LETTER AN;LYCIAN LETTER EN;LYCIAN LETTER H
LYCIAN LETTER X"),
  (0x102a0, "CARIAN LETTER A;CARIAN LETTER P2;CARIAN LETTER D;CARIAN LETTER L;CARIAN LETTER UUU
CARIAN LETTER R;CARIAN LETTER LD;CARIAN LETTER A2;CARIAN LETTER Q;CARIAN LETTER B;CARIAN LETTER M
CARIAN LETTER O;CARIAN LETTER D2;CARIAN LETTER T;CARIAN LETTER SH;CARIAN LETTER SH2
CARIAN LETTER S;CARIAN LETTER C-18;CARIAN LETTER U;CARIAN LETTER NN;CARIAN LETTER X
CARIAN LETTER N;CARIAN LETTER TT2;CARIAN LETTER P;CARIAN LETTER SS;CARIAN LETTER I
CARIAN LETTER E;CARIAN LETTER UUUU;CARIAN LETTER K;CARIAN LETTER K2;CARIAN LETTER ND
CARIAN LETTER UU;CARIAN LETTER G;CARIAN LETTER G2;CARIAN LETTER ST;CARIAN LETTER ST2
CARIAN LETTER NG;CARIAN LETTER II;CARIAN LETTER C-39;CARIAN LETTER TT;CARIAN LETTER UUU2
CARIAN LETTER RR;CARIAN LETTER MB;CARIAN LETTER MB2;CARIAN LETTER MB3;CARIAN LETTER MB4
CARIAN LETTER LD2;CARIAN LETTER E2;CARIAN LETTER UUU3"),
  (0x102e0, "COPTIC EPACT THOUSANDS MARK;COPTIC EPACT DIGIT ONE;COPTIC EPACT DIGIT TWO
COPTIC EPACT DIGIT THREE;COPTIC EPACT DIGIT FOUR;COPTIC EPACT DIGIT FIVE;COPTIC EPACT DIGIT SIX
COPTIC EPACT DIGIT SEVEN;COPTIC EPACT DIGIT EIGHT;COPTIC EPACT DIGIT NINE;COPTIC EPACT NUMBER TEN
COPTIC EPACT NUMBER TWENTY;COPTIC EPACT NUMBER THIRTY;COPTIC EPACT NUMBER FORTY
COPTIC EPACT NUMBER FIFTY;COPTIC EPACT NUMBER SIXTY;COPTIC EPACT NUMBER SEVENTY
COPTIC EPACT NUMBER EIGHTY;COPTIC EPACT NUMBER NINETY;COPTIC EPACT NUMBER ONE HUNDRED
COPTIC EPACT NUMBER TWO HUNDRED;COPTIC EPACT NUMBER THREE HUNDRED
COPTIC EPACT NUMBER FOUR HUNDRED;COPTIC EPACT NUMBER FIVE HUNDRED;COPTIC EPACT NUMBER SIX HUNDRED
COPTIC EPACT NUMBER SEVEN HUNDRED;COPTIC EPACT NUMBER EIGHT HUNDRED
COPTIC EPACT NUMBER NINE HUNDRED"),
  (0x10300, "OLD ITALIC LETTER A;OLD ITALIC LETTER BE;OLD ITALIC LETTER KE;OLD ITALIC LETTER DE
OLD ITALIC LETTER E;OLD ITALIC LETTER VE;OLD ITALIC LETTER ZE;OLD ITALIC LETTER HE
OLD ITALIC LETTER THE;OLD ITALIC LETTER I;OLD ITALIC LETTER KA;OLD ITALIC LETTER EL
OLD ITALIC LETTER EM;OLD ITALIC LETTER EN;OLD ITALIC LETTER ESH;OLD ITALIC LETTER O
OLD ITALIC LETTER PE;OLD ITALIC LETTER SHE;OLD ITALIC LETTER KU;OLD ITALIC LETTER ER
OLD ITALIC LETTER ES;OLD ITALIC LETTER TE;OLD ITALIC LETTER U;OLD ITALIC LETTER EKS
OLD ITALIC LETTER PHE;OLD ITALIC LETTER KHE;OLD ITALIC LETTER EF;OLD ITALIC LETTER ERS
OLD ITALIC LETTER CHE;OLD ITALIC LETTER II;OLD ITALIC LETTER UU;OLD ITALIC LETTER ESS
OLD ITALIC NUMERAL ONE;OLD ITALIC NUMERAL FIVE;OLD ITALIC NUMERAL TEN;OLD ITALIC NUMERAL FIFTY"),
  (0x1032d, "OLD ITALIC LETTER YE;OLD ITALIC LETTER NORTHERN TSE;OLD ITALIC LETTER SOUTHERN TSE
GOTHIC LETTER AHSA;GOTHIC LETTER BAIRKAN;GOTHIC LETTER GIBA;GOTHIC LETTER DAGS
GOTHIC LETTER AIHVUS;GOTHIC LETTER QAIRTHRA;GOTHIC LETTER IUJA;GOTHIC LETTER HAGL
GOTHIC LETTER THIUTH;GOTHIC LETTER EIS;GOTHIC LETTER KUSMA;GOTHIC LETTER LAGUS
GOTHIC LETTER MANNA;GOTHIC LETTER NAUTHS;GOTHIC LETTER JER;GOTHIC LETTER URUS
GOTHIC LETTER PAIRTHRA;GOTHIC LETTER NINETY;GOTHIC LETTER RAIDA;GOTHIC LETTER SAUIL
GOTHIC LETTER TEIWS;GOTHIC LETTER WINJA;GOTHIC LETTER FAIHU;GOTHIC LETTER IGGWS
GOTHIC LETTER HWAIR;GOTHIC LETTER OTHAL;GOTHIC LETTER NINE HUNDRED"),
  (0x10350, "OLD PERMIC LETTER AN;OLD PERMIC LETTER BUR;OLD PERMIC LETTER GAI
OLD PERMIC LETTER DOI;OLD PERMIC LETTER E;OLD PERMIC LETTER ZHOI;OLD PERMIC LETTER DZHOI
OLD PERMIC LETTER ZATA;OLD PERMIC LETTER DZITA;OLD PERMIC LETTER I;OLD PERMIC LETTER KOKE
OLD PERMIC LETTER LEI;OLD PERMIC LETTER MENOE;OLD PERMIC LETTER NENOE;OLD PERMIC LETTER VOOI
OLD PERMIC LETTER PEEI;OLD PERMIC LETTER REI;OLD PERMIC LETTER SII;OLD PERMIC LETTER TAI
OLD PERMIC LETTER U;OLD PERMIC LETTER CHERY;OLD PERMIC LETTER SHOOI;OLD PERMIC LETTER SHCHOOI
OLD PERMIC LETTER YRY;OLD PERMIC LETTER YERU;OLD PERMIC LETTER O;OLD PERMIC LETTER OO
OLD PERMIC LETTER EF;OLD PERMIC LETTER HA;OLD PERMIC LETTER TSIU;OLD PERMIC LETTER VER
OLD PERMIC LETTER YER;OLD PERMIC LETTER YERI;OLD PERMIC LETTER YAT;OLD PERMIC LETTER IE
OLD PERMIC LETTER YU;OLD PERMIC LETTER YA;OLD PERMIC LETTER IA;COMBINING OLD PERMIC LETTER AN
COMBINING OLD PERMIC LETTER DOI;COMBINING OLD PERMIC LETTER ZATA
COMBINING OLD PERMIC LETTER NENOE;COMBINING OLD PERMIC LETTER SII"),
  (0x10380, "UGARITIC LETTER ALPA;UGARITIC LETTER BETA;UGARITIC LETTER GAMLA;UGARITIC LETTER KHA
UGARITIC LETTER DELTA;UGARITIC LETTER HO;UGARITIC LETTER WO;UGARITIC LETTER ZETA
UGARITIC LETTER HOTA;UGARITIC LETTER TET;UGARITIC LETTER YOD;UGARITIC LETTER KAF
UGARITIC LETTER SHIN;UGARITIC LETTER LAMDA;UGARITIC LETTER MEM;UGARITIC LETTER DHAL
UGARITIC LETTER NUN;UGARITIC LETTER ZU;UGARITIC LETTER SAMKA;UGARITIC LETTER AIN
UGARITIC LETTER PU;UGARITIC LETTER SADE;UGARITIC LETTER QOPA;UGARITIC LETTER RASHA
UGARITIC LETTER THANNA;UGARITIC LETTER GHAIN;UGARITIC LETTER TO;UGARITIC LETTER I
UGARITIC LETTER U;UGARITIC LETTER SSU"),
  (0x1039f, "UGARITIC WORD DIVIDER;OLD PERSIAN SIGN A;OLD PERSIAN SIGN I;OLD PERSIAN SIGN U
OLD PERSIAN SIGN KA;OLD PERSIAN SIGN KU;OLD PERSIAN SIGN GA;OLD PERSIAN SIGN GU
OLD PERSIAN SIGN XA;OLD PERSIAN SIGN CA;OLD PERSIAN SIGN JA;OLD PERSIAN SIGN JI
OLD PERSIAN SIGN TA;OLD PERSIAN SIGN TU;OLD PERSIAN SIGN DA;OLD PERSIAN SIGN DI
OLD PERSIAN SIGN DU;OLD PERSIAN SIGN THA;OLD PERSIAN SIGN PA;OLD PERSIAN SIGN BA
OLD PERSIAN SIGN FA;OLD PERSIAN SIGN NA;OLD PERSIAN SIGN NU;OLD PERSIAN SIGN MA
OLD PERSIAN SIGN MI;OLD PERSIAN SIGN MU;OLD PERSIAN SIGN YA;OLD PERSIAN SIGN VA
OLD PERSIAN SIGN VI;OLD PERSIAN SIGN RA;OLD PERSIAN SIGN RU;OLD PERSIAN SIGN LA
OLD PERSIAN SIGN SA;OLD PERSIAN SIGN ZA;OLD PERSIAN SIGN SHA;OLD PERSIAN SIGN SSA
OLD PERSIAN SIGN HA"),
  (0x103c8, "OLD PERSIAN SIGN AURAMAZDAA;OLD PERSIAN SIGN AURAMAZDAA-2
OLD PERSIAN SIGN AURAMAZDAAHA;OLD PERSIAN SIGN XSHAAYATHIYA;OLD PERSIAN SIGN DAHYAAUSH
OLD PERSIAN SIGN DAHYAAUSH-2;OLD PERSIAN SIGN BAGA;OLD PERSIAN SIGN BUUMISH
OLD PERSIAN WORD DIVIDER;OLD PERSIAN NUMBER ONE;OLD PERSIAN NUMBER TWO;OLD PERSIAN NUMBER TEN
OLD PERSIAN NUMBER TWENTY;OLD PERSIAN NUMBER HUNDRED"),
  (0x10400, "DESERET CAPITAL LETTER LONG I;DESERET CAPITAL LETTER LONG E
DESERET CAPITAL LETTER LONG A;DESERET CAPITAL LETTER LONG AH;DESERET CAPITAL LETTER LONG O
DESERET CAPITAL LETTER LONG OO;DESERET CAPITAL LETTER SHORT I;DESERET CAPITAL LETTER SHORT E
DESERET CAPITAL LETTER SHORT A;DESERET CAPITAL LETTER SHORT AH;DESERET CAPITAL LETTER SHORT O
DESERET CAPITAL LETTER SHORT OO;DESERET CAPITAL LETTER AY;DESERET CAPITAL LETTER OW
DESERET CAPITAL LETTER WU;DESERET CAPITAL LETTER YEE;DESERET CAPITAL LETTER H
DESERET CAPITAL LETTER PEE;DESERET CAPITAL LETTER BEE;DESERET CAPITAL LETTER TEE
DESERET CAPITAL LETTER DEE;DESERET CAPITAL LETTER CHEE;DESERET CAPITAL LETTER JEE
DESERET CAPITAL LETTER KAY;DESERET CAPITAL LETTER GAY;DESERET CAPITAL LETTER EF
DESERET CAPITAL LETTER VEE;DESERET CAPITAL LETTER ETH;DESERET CAPITAL LETTER THEE
DESERET CAPITAL LETTER ES;DESERET CAPITAL LETTER ZEE;DESERET CAPITAL LETTER ESH
DESERET CAPITAL LETTER ZHEE;DESERET CAPITAL LETTER ER;DESERET CAPITAL LETTER EL
DESERET CAPITAL LETTER EM;DESERET CAPITAL LETTER EN;DESERET CAPITAL LETTER ENG
DESERET CAPITAL LETTER OI;DESERET CAPITAL LETTER EW;DESERET SMALL LETTER LONG I
DESERET SMALL LETTER LONG E;DESERET SMALL LETTER LONG A;DESERET SMALL LETTER LONG AH
DESERET SMALL LETTER LONG O;DESERET SMALL LETTER LONG OO;DESERET SMALL LETTER SHORT I
DESERET SMALL LETTER SHORT E;DESERET SMALL LETTER SHORT A;DESERET SMALL LETTER SHORT AH
DESERET SMALL LETTER SHORT O;DESERET SMALL LETTER SHORT OO;DESERET SMALL LETTER AY
DESERET SMALL LETTER OW;DESERET SMALL LETTER WU;DESERET SMALL LETTER YEE;DESERET SMALL LETTER H
DESERET SMALL LETTER PEE;DESERET SMALL LETTER BEE;DESERET SMALL LETTER TEE
DESERET SMALL LETTER DEE;DESERET SMALL LETTER CHEE;DESERET SMALL LETTER JEE
DESERET SMALL LETTER KAY;DESERET SMALL LETTER GAY;DESERET SMALL LETTER EF
DESERET SMALL LETTER VEE;DESERET SMALL LETTER ETH;DESERET SMALL LETTER THEE
DESERET SMALL LETTER ES;DESERET SMALL LETTER ZEE;DESERET SMALL LETTER ESH
DESERET SMALL LETTER ZHEE;DESERET SMALL LETTER ER;DESERET SMALL LETTER EL;DESERET SMALL LETTER EM
DESERET SMALL LETTER EN;DESERET SMALL LETTER ENG;DESERET SMALL LETTER OI;DESERET SMALL LETTER EW
SHAVIAN LETTER PEEP;SHAVIAN LETTER TOT;SHAVIAN LETTER KICK;SHAVIAN LETTER FEE
SHAVIAN LETTER THIGH;SHAVIAN LETTER SO;SHAVIAN LETTER SURE;SHAVIAN LETTER CHURCH
SHAVIAN LETTER YEA;SHAVIAN LETTER HUNG;SHAVIAN LETTER BIB;SHAVIAN LETTER DEAD;SHAVIAN LETTER GAG
SHAVIAN LETTER VOW;SHAVIAN LETTER THEY;SHAVIAN LETTER ZOO;SHAVIAN LETTER MEASURE
SHAVIAN LETTER JUDGE;SHAVIAN LETTER WOE;SHAVIAN LETTER HA-HA;SHAVIAN LETTER LOLL
SHAVIAN LETTER MIME;SHAVIAN LETTER IF;SHAVIAN LETTER EGG;SHAVIAN LETTER ASH;SHAVIAN LETTER ADO
SHAVIAN LETTER ON;SHAVIAN LETTER WOOL;SHAVIAN LETTER OUT;SHAVIAN LETTER AH;SHAVIAN LETTER ROAR
SHAVIAN LETTER NUN;SHAVIAN LETTER EAT;SHAVIAN LETTER AGE;SHAVIAN LETTER ICE;SHAVIAN LETTER UP
SHAVIAN LETTER OAK;SHAVIAN LETTER OOZE;SHAVIAN LETTER OIL;SHAVIAN LETTER AWE;SHAVIAN LETTER ARE
SHAVIAN LETTER OR;SHAVIAN LETTER AIR;SHAVIAN LETTER ERR;SHAVIAN LETTER ARRAY;SHAVIAN LETTER EAR
SHAVIAN LETTER IAN;SHAVIAN LETTER YEW;OSMANYA LETTER ALEF;OSMANYA LETTER BA;OSMANYA LETTER TA
OSMANYA LETTER JA;OSMANYA LETTER XA;OSMANYA LETTER KHA;OSMANYA LETTER DEEL;OSMANYA LETTER RA
OSMANYA LETTER SA;OSMANYA LETTER SHIIN;OSMANYA LETTER DHA;OSMANYA LETTER CAYN;OSMANYA LETTER GA
OSMANYA LETTER FA;OSMANYA LETTER QAAF;OSMANYA LETTER KAAF;OSMANYA LETTER LAAN;OSMANYA LETTER MIIN
OSMANYA LETTER NUUN;OSMANYA LETTER WAW;OSMANYA LETTER HA;OSMANYA LETTER YA;OSMANYA LETTER A
OSMANYA LETTER E;OSMANYA LETTER I;OSMANYA LETTER O;OSMANYA LETTER U;OSMANYA LETTER AA
OSMANYA LETTER EE;OSMANYA LETTER OO"),
  (0x104a0, "OSMANYA DIGIT ZERO;OSMANYA DIGIT ONE;OSMANYA DIGIT TWO;OSMANYA DIGIT THREE
OSMANYA DIGIT FOUR;OSMANYA DIGIT FIVE;OSMANYA DIGIT SIX;OSMANYA DIGIT SEVEN;OSMANYA DIGIT EIGHT
OSMANYA DIGIT NINE"),
  (0x104b0, "OSAGE CAPITAL LETTER A;OSAGE CAPITAL LETTER AI;OSAGE CAPITAL LETTER AIN
OSAGE CAPITAL LETTER AH;OSAGE CAPITAL LETTER BRA;OSAGE CAPITAL LETTER CHA
OSAGE CAPITAL LETTER EHCHA;OSAGE CAPITAL LETTER E;OSAGE CAPITAL LETTER EIN
OSAGE CAPITAL LETTER HA;OSAGE CAPITAL LETTER HYA;OSAGE CAPITAL LETTER I;OSAGE CAPITAL LETTER KA
OSAGE CAPITAL LETTER EHKA;OSAGE CAPITAL LETTER KYA;OSAGE CAPITAL LETTER LA
OSAGE CAPITAL LETTER MA;OSAGE CAPITAL LETTER NA;OSAGE CAPITAL LETTER O;OSAGE CAPITAL LETTER OIN
OSAGE CAPITAL LETTER PA;OSAGE CAPITAL LETTER EHPA;OSAGE CAPITAL LETTER SA
OSAGE CAPITAL LETTER SHA;OSAGE CAPITAL LETTER TA;OSAGE CAPITAL LETTER EHTA
OSAGE CAPITAL LETTER TSA;OSAGE CAPITAL LETTER EHTSA;OSAGE CAPITAL LETTER TSHA
OSAGE CAPITAL LETTER DHA;OSAGE CAPITAL LETTER U;OSAGE CAPITAL LETTER WA;OSAGE CAPITAL LETTER KHA
OSAGE CAPITAL LETTER GHA;OSAGE CAPITAL LETTER ZA;OSAGE CAPITAL LETTER ZHA"),
  (0x104d8, "OSAGE SMALL LETTER A;OSAGE SMALL LETTER AI;OSAGE SMALL LETTER AIN
OSAGE SMALL LETTER AH;OSAGE SMALL LETTER BRA;OSAGE SMALL LETTER CHA;OSAGE SMALL LETTER EHCHA
OSAGE SMALL LETTER E;OSAGE SMALL LETTER EIN;OSAGE SMALL LETTER HA;OSAGE SMALL LETTER HYA
OSAGE SMALL LETTER I;OSAGE SMALL LETTER KA;OSAGE SMALL LETTER EHKA;OSAGE SMALL LETTER KYA
OSAGE SMALL LETTER LA;OSAGE SMALL LETTER MA;OSAGE SMALL LETTER NA;OSAGE SMALL LETTER O
OSAGE SMALL LETTER OIN;OSAGE SMALL LETTER PA;OSAGE SMALL LETTER EHPA;OSAGE SMALL LETTER SA
OSAGE SMALL LETTER SHA;OSAGE SMALL LETTER TA;OSAGE SMALL LETTER EHTA;OSAGE SMALL LETTER TSA
OSAGE SMALL LETTER EHTSA;OSAGE SMALL LETTER TSHA;OSAGE SMALL LETTER DHA;OSAGE SMALL LETTER U
OSAGE SMALL LETTER WA;OSAGE SMALL LETTER KHA;OSAGE SMALL LETTER GHA;OSAGE SMALL LETTER ZA
OSAGE SMALL LETTER ZHA"),
  (0x10500, "ELBASAN LETTER A;ELBASAN LETTER BE;ELBASAN LETTER CE;ELBASAN LETTER CHE
ELBASAN LETTER DE;ELBASAN LETTER NDE;ELBASAN LETTER DHE;ELBASAN LETTER EI;ELBASAN LETTER E
ELBASAN LETTER FE;ELBASAN LETTER GE;ELBASAN LETTER GJE;ELBASAN LETTER HE;ELBASAN LETTER I
ELBASAN LETTER JE;ELBASAN LETTER KE;ELBASAN LETTER LE;ELBASAN LETTER LLE;ELBASAN LETTER ME
ELBASAN LETTER NE;ELBASAN LETTER NA;ELBASAN LETTER NJE;ELBASAN LETTER O;ELBASAN LETTER PE
ELBASAN LETTER QE;ELBASAN LETTER RE;ELBASAN LETTER RRE;ELBASAN LETTER SE;ELBASAN LETTER SHE
ELBASAN LETTER TE;ELBASAN LETTER THE;ELBASAN LETTER U;ELBASAN LETTER VE;ELBASAN LETTER XE
ELBASAN LETTER Y;ELBASAN LETTER ZE;ELBASAN LETTER ZHE;ELBASAN LETTER GHE;ELBASAN LETTER GHAMMA
ELBASAN LETTER KHE"),
  (0x10530, "CAUCASIAN ALBANIAN LETTER ALT;CAUCASIAN ALBANIAN LETTER BET
CAUCASIAN ALBANIAN LETTER GIM;CAUCASIAN ALBANIAN LETTER DAT;CAUCASIAN ALBANIAN LETTER EB
CAUCASIAN ALBANIAN LETTER ZARL;CAUCASIAN ALBANIAN LETTER EYN;CAUCASIAN ALBANIAN LETTER ZHIL
CAUCASIAN ALBANIAN LETTER TAS;CAUCASIAN ALBANIAN LETTER CHA;CAUCASIAN ALBANIAN LETTER YOWD
CAUCASIAN ALBANIAN LETTER ZHA;CAUCASIAN ALBANIAN LETTER IRB;CAUCASIAN ALBANIAN LETTER SHA
CAUCASIAN ALBANIAN LETTER LAN;CAUCASIAN ALBANIAN LETTER INYA;CAUCASIAN ALBANIAN LETTER XEYN
CAUCASIAN ALBANIAN LETTER DYAN;CAUCASIAN ALBANIAN LETTER CAR;CAUCASIAN ALBANIAN LETTER JHOX
CAUCASIAN ALBANIAN LETTER KAR;CAUCASIAN ALBANIAN LETTER LYIT;CAUCASIAN ALBANIAN LETTER HEYT
CAUCASIAN ALBANIAN LETTER QAY;CAUCASIAN ALBANIAN LETTER AOR;CAUCASIAN ALBANIAN LETTER CHOY
CAUCASIAN ALBANIAN LETTER CHI;CAUCASIAN ALBANIAN LETTER CYAY;CAUCASIAN ALBANIAN LETTER MAQ
CAUCASIAN ALBANIAN LETTER QAR;CAUCASIAN ALBANIAN LETTER NOWC;CAUCASIAN ALBANIAN LETTER DZYAY
CAUCASIAN ALBANIAN LETTER SHAK;CAUCASIAN ALBANIAN LETTER JAYN;CAUCASIAN ALBANIAN LETTER ON
CAUCASIAN ALBANIAN LETTER TYAY;CAUCASIAN ALBANIAN LETTER FAM;CAUCASIAN ALBANIAN LETTER DZAY
CAUCASIAN ALBANIAN LETTER CHAT;CAUCASIAN ALBANIAN LETTER PEN;CAUCASIAN ALBANIAN LETTER GHEYS
CAUCASIAN ALBANIAN LETTER RAT;CAUCASIAN ALBANIAN LETTER SEYK;CAUCASIAN ALBANIAN LETTER VEYZ
CAUCASIAN ALBANIAN LETTER TIWR;CAUCASIAN ALBANIAN LETTER SHOY;CAUCASIAN ALBANIAN LETTER IWN
CAUCASIAN ALBANIAN LETTER CYAW;CAUCASIAN ALBANIAN LETTER CAYN;CAUCASIAN ALBANIAN LETTER YAYD
CAUCASIAN ALBANIAN LETTER PIWR;CAUCASIAN ALBANIAN LETTER KIW"),
  (0x1056f, "CAUCASIAN ALBANIAN CITATION MARK;VITHKUQI CAPITAL LETTER A
VITHKUQI CAPITAL LETTER BBE;VITHKUQI CAPITAL LETTER BE;VITHKUQI CAPITAL LETTER CE
VITHKUQI CAPITAL LETTER CHE;VITHKUQI CAPITAL LETTER DE;VITHKUQI CAPITAL LETTER DHE
VITHKUQI CAPITAL LETTER EI;VITHKUQI CAPITAL LETTER E;VITHKUQI CAPITAL LETTER FE
VITHKUQI CAPITAL LETTER GA"),
  (0x1057c, "VITHKUQI CAPITAL LETTER HA;VITHKUQI CAPITAL LETTER HHA;VITHKUQI CAPITAL LETTER I
VITHKUQI CAPITAL LETTER IJE;VITHKUQI CAPITAL LETTER JE;VITHKUQI CAPITAL LETTER KA
VITHKUQI CAPITAL LETTER LA;VITHKUQI CAPITAL LETTER LLA;VITHKUQI CAPITAL LETTER ME
VITHKUQI CAPITAL LETTER NE;VITHKUQI CAPITAL LETTER NJE;VITHKUQI CAPITAL LETTER O
VITHKUQI CAPITAL LETTER PE;VITHKUQI CAPITAL LETTER QA;VITHKUQI CAPITAL LETTER RE"),
  (0x1058c, "VITHKUQI CAPITAL LETTER SE;VITHKUQI CAPITAL LETTER SHE;VITHKUQI CAPITAL LETTER TE
VITHKUQI CAPITAL LETTER THE;VITHKUQI CAPITAL LETTER U;VITHKUQI CAPITAL LETTER VE
VITHKUQI CAPITAL LETTER XE"),
  (0x10594, "VITHKUQI CAPITAL LETTER Y;VITHKUQI CAPITAL LETTER ZE"),
  (0x10597, "VITHKUQI SMALL LETTER A;VITHKUQI SMALL LETTER BBE;VITHKUQI SMALL LETTER BE
VITHKUQI SMALL LETTER CE;VITHKUQI SMALL LETTER CHE;VITHKUQI SMALL LETTER DE
VITHKUQI SMALL LETTER DHE;VITHKUQI SMALL LETTER EI;VITHKUQI SMALL LETTER E
VITHKUQI SMALL LETTER FE;VITHKUQI SMALL LETTER GA"),
  (0x105a3, "VITHKUQI SMALL LETTER HA;VITHKUQI SMALL LETTER HHA;VITHKUQI SMALL LETTER I
VITHKUQI SMALL LETTER IJE;VITHKUQI SMALL LETTER JE;VITHKUQI SMALL LETTER KA
VITHKUQI SMALL LETTER LA;VITHKUQI SMALL LETTER LLA;VITHKUQI SMALL LETTER ME
VITHKUQI SMALL LETTER NE;VITHKUQI SMALL LETTER NJE;VITHKUQI SMALL LETTER O
VITHKUQI SMALL LETTER PE;VITHKUQI SMALL LETTER QA;VITHKUQI SMALL LETTER RE"),
  (0x105b3, "VITHKUQI SMALL LETTER SE;VITHKUQI SMALL LETTER SHE;VITHKUQI SMALL LETTER TE
VITHKUQI SMALL LETTER THE;VITHKUQI SMALL LETTER U;VITHKUQI SMALL LETTER VE
VITHKUQI SMALL LETTER XE"),
  (0x105bb, "VITHKUQI SMALL LETTER Y;VITHKUQI SMALL LETTER ZE"),
  (0x10600, "LINEAR A SIGN AB001;LINEAR A SIGN AB002;LINEAR A SIGN AB003;LINEAR A SIGN AB004
LINEAR A SIGN AB005;LINEAR A SIGN AB006;LINEAR A SIGN AB007;LINEAR A SIGN AB008
LINEAR A SIGN AB009;LINEAR A SIGN AB010;LINEAR A SIGN AB011;LINEAR A SIGN AB013
LINEAR A SIGN AB016;LINEAR A SIGN AB017;LINEAR A SIGN AB020;LINEAR A SIGN AB021
LINEAR A SIGN AB021F;LINEAR A SIGN AB021M;LINEAR A SIGN AB022;LINEAR A SIGN AB022F
LINEAR A SIGN AB022M;LINEAR A SIGN AB023;LINEAR A SIGN AB023M;LINEAR A SIGN AB024
LINEAR A SIGN AB026;LINEAR A SIGN AB027;LINEAR A SIGN AB028;LINEAR A SIGN A028B
LINEAR A SIGN AB029;LINEAR A SIGN AB030;LINEAR A SIGN AB031;LINEAR A SIGN AB034
LINEAR A SIGN AB037;LINEAR A SIGN AB038;LINEAR A SIGN AB039;LINEAR A SIGN AB040
LINEAR A SIGN AB041;LINEAR A SIGN AB044;LINEAR A SIGN AB045;LINEAR A SIGN AB046
LINEAR A SIGN AB047;LINEAR A SIGN AB048;LINEAR A SIGN AB049;LINEAR A SIGN AB050
LINEAR A SIGN AB051;LINEAR A SIGN AB053;LINEAR A SIGN AB054;LINEAR A SIGN AB055
LINEAR A SIGN AB056;LINEAR A SIGN AB057;LINEAR A SIGN AB058;LINEAR A SIGN AB059
LINEAR A SIGN AB060;LINEAR A SIGN AB061;LINEAR A SIGN AB065;LINEAR A SIGN AB066
LINEAR A SIGN AB067;LINEAR A SIGN AB069;LINEAR A SIGN AB070;LINEAR A SIGN AB073
LINEAR A SIGN AB074;LINEAR A SIGN AB076;LINEAR A SIGN AB077;LINEAR A SIGN AB078
LINEAR A SIGN AB079;LINEAR A SIGN AB080;LINEAR A SIGN AB081;LINEAR A SIGN AB082
LINEAR A SIGN AB085;LINEAR A SIGN AB086;LINEAR A SIGN AB087;LINEAR A SIGN A100-102
LINEAR A SIGN AB118;LINEAR A SIGN AB120;LINEAR A SIGN A120B;LINEAR A SIGN AB122
LINEAR A SIGN AB123;LINEAR A SIGN AB131A;LINEAR A SIGN AB131B;LINEAR A SIGN A131C
LINEAR A SIGN AB164;LINEAR A SIGN AB171;LINEAR A SIGN AB180;LINEAR A SIGN AB188
LINEAR A SIGN AB191;LINEAR A SIGN A301;LINEAR A SIGN A302;LINEAR A SIGN A303;LINEAR A SIGN A304
LINEAR A SIGN A305;LINEAR A SIGN A306;LINEAR A SIGN A307;LINEAR A SIGN A308;LINEAR A SIGN A309A
LINEAR A SIGN A309B;LINEAR A SIGN A309C;LINEAR A SIGN A310;LINEAR A SIGN A311;LINEAR A SIGN A312
LINEAR A SIGN A313A;LINEAR A SIGN A313B;LINEAR A SIGN A313C;LINEAR A SIGN A314;LINEAR A SIGN A315
LINEAR A SIGN A316;LINEAR A SIGN A317;LINEAR A SIGN A318;LINEAR A SIGN A319;LINEAR A SIGN A320
LINEAR A SIGN A321;LINEAR A SIGN A322;LINEAR A SIGN A323;LINEAR A SIGN A324;LINEAR A SIGN A325
LINEAR A SIGN A326;LINEAR A SIGN A327;LINEAR A SIGN A328;LINEAR A SIGN A329;LINEAR A SIGN A330
LINEAR A SIGN A331;LINEAR A SIGN A332;LINEAR A SIGN A333;LINEAR A SIGN A334;LINEAR A SIGN A335
LINEAR A SIGN A336;LINEAR A SIGN A337;LINEAR A SIGN A338;LINEAR A SIGN A339;LINEAR A SIGN A340
LINEAR A SIGN A341;LINEAR A SIGN A342;LINEAR A SIGN A343;LINEAR A SIGN A344;LINEAR A SIGN A345
LINEAR A SIGN A346;LINEAR A SIGN A347;LINEAR A SIGN A348;LINEAR A SIGN A349;LINEAR A SIGN A350
LINEAR A SIGN A351;LINEAR A SIGN A352;LINEAR A SIGN A353;LINEAR A SIGN A354;LINEAR A SIGN A355
LINEAR A SIGN A356;LINEAR A SIGN A357;LINEAR A SIGN A358;LINEAR A SIGN A359;LINEAR A SIGN A360
LINEAR A SIGN A361;LINEAR A SIGN A362;LINEAR A SIGN A363;LINEAR A SIGN A364;LINEAR A SIGN A365
LINEAR A SIGN A366;LINEAR A SIGN A367;LINEAR A SIGN A368;LINEAR A SIGN A369;LINEAR A SIGN A370
LINEAR A SIGN A371;LINEAR A SIGN A400-VAS;LINEAR A SIGN A401-VAS;LINEAR A SIGN A402-VAS
LINEAR A SIGN A403-VAS;LINEAR A SIGN A404-VAS;LINEAR A SIGN A405-VAS;LINEAR A SIGN A406-VAS
LINEAR A SIGN A407-VAS;LINEAR A SIGN A408-VAS;LINEAR A SIGN A409-VAS;LINEAR A SIGN A410-VAS
LINEAR A SIGN A411-VAS;LINEAR A SIGN A412-VAS;LINEAR A SIGN A413-VAS;LINEAR A SIGN A414-VAS
LINEAR A SIGN A415-VAS;LINEAR A SIGN A416-VAS;LINEAR A SIGN A417-VAS;LINEAR A SIGN A418-VAS
LINEAR A SIGN A501;LINEAR A SIGN A502;LINEAR A SIGN A503;LINEAR A SIGN A504;LINEAR A SIGN A505
LINEAR A SIGN A506;LINEAR A SIGN A508;LINEAR A SIGN A509;LINEAR A SIGN A510;LINEAR A SIGN A511
LINEAR A SIGN A512;LINEAR A SIGN A513;LINEAR A SIGN A515;LINEAR A SIGN A516;LINEAR A SIGN A520
LINEAR A SIGN A521;LINEAR A SIGN A523;LINEAR A SIGN A524;LINEAR A SIGN A525;LINEAR A SIGN A526
LINEAR A SIGN A527;LINEAR A SIGN A528;LINEAR A SIGN A529;LINEAR A SIGN A530;LINEAR A SIGN A531
LINEAR A SIGN A532;LINEAR A SIGN A534;LINEAR A SIGN A535;LINEAR A SIGN A536;LINEAR A SIGN A537
LINEAR A SIGN A538;LINEAR A SIGN A539;LINEAR A SIGN A540;LINEAR A SIGN A541;LINEAR A SIGN A542
LINEAR A SIGN A545;LINEAR A SIGN A547;LINEAR A SIGN A548;LINEAR A SIGN A549;LINEAR A SIGN A550
LINEAR A SIGN A551;LINEAR A SIGN A552;LINEAR A SIGN A553;LINEAR A SIGN A554;LINEAR A SIGN A555
LINEAR A SIGN A556;LINEAR A SIGN A557;LINEAR A SIGN A559;LINEAR A SIGN A563;LINEAR A SIGN A564
LINEAR A SIGN A565;LINEAR A SIGN A566;LINEAR A SIGN A568;LINEAR A SIGN A569;LINEAR A SIGN A570
LINEAR A SIGN A571;LINEAR A SIGN A572;LINEAR A SIGN A573;LINEAR A SIGN A574;LINEAR A SIGN A575
LINEAR A SIGN A576;LINEAR A SIGN A577;LINEAR A SIGN A578;LINEAR A SIGN A579;LINEAR A SIGN A580
LINEAR A SIGN A581;LINEAR A SIGN A582;LINEAR A SIGN A583;LINEAR A SIGN A584;LINEAR A SIGN A585
LINEAR A SIGN A586;LINEAR A SIGN A587;LINEAR A SIGN A588;LINEAR A SIGN A589;LINEAR A SIGN A591
LINEAR A SIGN A592;LINEAR A SIGN A594;LINEAR A SIGN A595;LINEAR A SIGN A596;LINEAR A SIGN A598
LINEAR A SIGN A600;LINEAR A SIGN A601;LINEAR A SIGN A602;LINEAR A SIGN A603;LINEAR A SIGN A604
LINEAR A SIGN A606;LINEAR A SIGN A608;LINEAR A SIGN A609;LINEAR A SIGN A610;LINEAR A SIGN A611
LINEAR A SIGN A612;LINEAR A SIGN A613;LINEAR A SIGN A614;LINEAR A SIGN A615;LINEAR A SIGN A616
LINEAR A SIGN A617;LINEAR A SIGN A618;LINEAR A SIGN A619;LINEAR A SIGN A620;LINEAR A SIGN A621
LINEAR A SIGN A622;LINEAR A SIGN A623;LINEAR A SIGN A624;LINEAR A SIGN A626;LINEAR A SIGN A627
LINEAR A SIGN A628;LINEAR A SIGN A629;LINEAR A SIGN A634;LINEAR A SIGN A637;LINEAR A SIGN A638
LINEAR A SIGN A640;LINEAR A SIGN A642;LINEAR A SIGN A643;LINEAR A SIGN A644;LINEAR A SIGN A645
LINEAR A SIGN A646;LINEAR A SIGN A648;LINEAR A SIGN A649;LINEAR A SIGN A651;LINEAR A SIGN A652
LINEAR A SIGN A653;LINEAR A SIGN A654;LINEAR A SIGN A655;LINEAR A SIGN A656;LINEAR A SIGN A657
LINEAR A SIGN A658;LINEAR A SIGN A659;LINEAR A SIGN A660;LINEAR A SIGN A661;LINEAR A SIGN A662
LINEAR A SIGN A663;LINEAR A SIGN A664"),
  (0x10740, "LINEAR A SIGN A701 A;LINEAR A SIGN A702 B;LINEAR A SIGN A703 D;LINEAR A SIGN A704 E
LINEAR A SIGN A705 F;LINEAR A SIGN A706 H;LINEAR A SIGN A707 J;LINEAR A SIGN A708 K
LINEAR A SIGN A709 L;LINEAR A SIGN A709-2 L2;LINEAR A SIGN A709-3 L3;LINEAR A SIGN A709-4 L4
LINEAR A SIGN A709-6 L6;LINEAR A SIGN A710 W;LINEAR A SIGN A711 X;LINEAR A SIGN A712 Y
LINEAR A SIGN A713 OMEGA;LINEAR A SIGN A714 ABB;LINEAR A SIGN A715 BB;LINEAR A SIGN A717 DD
LINEAR A SIGN A726 EYYY;LINEAR A SIGN A732 JE"),
  (0x10760, "LINEAR A SIGN A800;LINEAR A SIGN A801;LINEAR A SIGN A802;LINEAR A SIGN A803
LINEAR A SIGN A804;LINEAR A SIGN A805;LINEAR A SIGN A806;LINEAR A SIGN A807"),
  (0x10780, "MODIFIER LETTER SMALL CAPITAL AA;MODIFIER LETTER SUPERSCRIPT TRIANGULAR COLON
MODIFIER LETTER SUPERSCRIPT HALF TRIANGULAR COLON;MODIFIER LETTER SMALL AE
MODIFIER LETTER SMALL CAPITAL B;MODIFIER LETTER SMALL B WITH HOOK"),
  (0x10787, "MODIFIER LETTER SMALL DZ DIGRAPH
MODIFIER LETTER SMALL DZ DIGRAPH WITH RETROFLEX HOOK;MODIFIER LETTER SMALL DZ DIGRAPH WITH CURL
MODIFIER LETTER SMALL DEZH DIGRAPH;MODIFIER LETTER SMALL D WITH TAIL
MODIFIER LETTER SMALL D WITH HOOK;MODIFIER LETTER SMALL D WITH HOOK AND TAIL
MODIFIER LETTER SMALL REVERSED E;MODIFIER LETTER SMALL CLOSED REVERSED OPEN E
MODIFIER LETTER SMALL FENG DIGRAPH;MODIFIER LETTER SMALL RAMS HORN
MODIFIER LETTER SMALL CAPITAL G;MODIFIER LETTER SMALL G WITH HOOK
MODIFIER LETTER SMALL CAPITAL G WITH HOOK;MODIFIER LETTER SMALL H WITH STROKE
MODIFIER LETTER SMALL CAPITAL H;MODIFIER LETTER SMALL HENG WITH HOOK
MODIFIER LETTER SMALL DOTLESS J WITH STROKE AND HOOK;MODIFIER LETTER SMALL LS DIGRAPH
MODIFIER LETTER SMALL LZ DIGRAPH;MODIFIER LETTER SMALL L WITH BELT
MODIFIER LETTER SMALL CAPITAL L WITH BELT;MODIFIER LETTER SMALL L WITH RETROFLEX HOOK AND BELT
MODIFIER LETTER SMALL LEZH;MODIFIER LETTER SMALL LEZH WITH RETROFLEX HOOK
MODIFIER LETTER SMALL TURNED Y;MODIFIER LETTER SMALL TURNED Y WITH BELT
MODIFIER LETTER SMALL O WITH STROKE;MODIFIER LETTER SMALL CAPITAL OE
MODIFIER LETTER SMALL CLOSED OMEGA;MODIFIER LETTER SMALL Q
MODIFIER LETTER SMALL TURNED R WITH LONG LEG
MODIFIER LETTER SMALL TURNED R WITH LONG LEG AND RETROFLEX HOOK;MODIFIER LETTER SMALL R WITH TAIL
MODIFIER LETTER SMALL R WITH FISHHOOK;MODIFIER LETTER SMALL CAPITAL R
MODIFIER LETTER SMALL TC DIGRAPH WITH CURL;MODIFIER LETTER SMALL TS DIGRAPH
MODIFIER LETTER SMALL TS DIGRAPH WITH RETROFLEX HOOK;MODIFIER LETTER SMALL TESH DIGRAPH
MODIFIER LETTER SMALL T WITH RETROFLEX HOOK;MODIFIER LETTER SMALL V WITH RIGHT HOOK"),
  (0x107b2, "MODIFIER LETTER SMALL CAPITAL Y;MODIFIER LETTER GLOTTAL STOP WITH STROKE
MODIFIER LETTER REVERSED GLOTTAL STOP WITH STROKE;MODIFIER LETTER BILABIAL CLICK
MODIFIER LETTER DENTAL CLICK;MODIFIER LETTER LATERAL CLICK;MODIFIER LETTER ALVEOLAR CLICK
MODIFIER LETTER RETROFLEX CLICK WITH RETROFLEX HOOK;MODIFIER LETTER SMALL S WITH CURL"),
  (0x10800, "CYPRIOT SYLLABLE A;CYPRIOT SYLLABLE E;CYPRIOT SYLLABLE I;CYPRIOT SYLLABLE O
CYPRIOT SYLLABLE U;CYPRIOT SYLLABLE JA"),
  (0x10808, "CYPRIOT SYLLABLE JO"),
  (0x1080a, "CYPRIOT SYLLABLE KA;CYPRIOT SYLLABLE KE;CYPRIOT SYLLABLE KI;CYPRIOT SYLLABLE KO
CYPRIOT SYLLABLE KU;CYPRIOT SYLLABLE LA;CYPRIOT SYLLABLE LE;CYPRIOT SYLLABLE LI
CYPRIOT SYLLABLE LO;CYPRIOT SYLLABLE LU;CYPRIOT SYLLABLE MA;CYPRIOT SYLLABLE ME
CYPRIOT SYLLABLE MI;CYPRIOT SYLLABLE MO;CYPRIOT SYLLABLE MU;CYPRIOT SYLLABLE NA
CYPRIOT SYLLABLE NE;CYPRIOT SYLLABLE NI;CYPRIOT SYLLABLE NO;CYPRIOT SYLLABLE NU
CYPRIOT SYLLABLE PA;CYPRIOT SYLLABLE PE;CYPRIOT SYLLABLE PI;CYPRIOT SYLLABLE PO
CYPRIOT SYLLABLE PU;CYPRIOT SYLLABLE RA;CYPRIOT SYLLABLE RE;CYPRIOT SYLLABLE RI
CYPRIOT SYLLABLE RO;CYPRIOT SYLLABLE RU;CYPRIOT SYLLABLE SA;CYPRIOT SYLLABLE SE
CYPRIOT SYLLABLE SI;CYPRIOT SYLLABLE SO;CYPRIOT SYLLABLE SU;CYPRIOT SYLLABLE TA
CYPRIOT SYLLABLE TE;CYPRIOT SYLLABLE TI;CYPRIOT SYLLABLE TO;CYPRIOT SYLLABLE TU
CYPRIOT SYLLABLE WA;CYPRIOT SYLLABLE WE;CYPRIOT SYLLABLE WI;CYPRIOT SYLLABLE WO"),
  (0x10837, "CYPRIOT SYLLABLE XA;CYPRIOT SYLLABLE XE"),
  (0x1083c, "CYPRIOT SYLLABLE ZA"),
  (0x1083f, "CYPRIOT SYLLABLE ZO;IMPERIAL ARAMAIC LETTER ALEPH;IMPERIAL ARAMAIC LETTER BETH
IMPERIAL ARAMAIC LETTER GIMEL;IMPERIAL ARAMAIC LETTER DALETH;IMPERIAL ARAMAIC LETTER HE
IMPERIAL ARAMAIC LETTER WAW;IMPERIAL ARAMAIC LETTER ZAYIN;IMPERIAL ARAMAIC LETTER HETH
IMPERIAL ARAMAIC LETTER TETH;IMPERIAL ARAMAIC LETTER YODH;IMPERIAL ARAMAIC LETTER KAPH
IMPERIAL ARAMAIC LETTER LAMEDH;IMPERIAL ARAMAIC LETTER MEM;IMPERIAL ARAMAIC LETTER NUN
IMPERIAL ARAMAIC LETTER SAMEKH;IMPERIAL ARAMAIC LETTER AYIN;IMPERIAL ARAMAIC LETTER PE
IMPERIAL ARAMAIC LETTER SADHE;IMPERIAL ARAMAIC LETTER QOPH;IMPERIAL ARAMAIC LETTER RESH
IMPERIAL ARAMAIC LETTER SHIN;IMPERIAL ARAMAIC LETTER TAW"),
  (0x10857, "IMPERIAL ARAMAIC SECTION SIGN;IMPERIAL ARAMAIC NUMBER ONE
IMPERIAL ARAMAIC NUMBER TWO;IMPERIAL ARAMAIC NUMBER THREE;IMPERIAL ARAMAIC NUMBER TEN
IMPERIAL ARAMAIC NUMBER TWENTY;IMPERIAL ARAMAIC NUMBER ONE HUNDRED
IMPERIAL ARAMAIC NUMBER ONE THOUSAND;IMPERIAL ARAMAIC NUMBER TEN THOUSAND;PALMYRENE LETTER ALEPH
PALMYRENE LETTER BETH;PALMYRENE LETTER GIMEL;PALMYRENE LETTER DALETH;PALMYRENE LETTER HE
PALMYRENE LETTER WAW;PALMYRENE LETTER ZAYIN;PALMYRENE LETTER HETH;PALMYRENE LETTER TETH
PALMYRENE LETTER YODH;PALMYRENE LETTER KAPH;PALMYRENE LETTER LAMEDH;PALMYRENE LETTER MEM
PALMYRENE LETTER FINAL NUN;PALMYRENE LETTER NUN;PALMYRENE LETTER SAMEKH;PALMYRENE LETTER AYIN
PALMYRENE LETTER PE;PALMYRENE LETTER SADHE;PALMYRENE LETTER QOPH;PALMYRENE LETTER RESH
PALMYRENE LETTER SHIN;PALMYRENE LETTER TAW;PALMYRENE LEFT-POINTING FLEURON
PALMYRENE RIGHT-POINTING FLEURON;PALMYRENE NUMBER ONE;PALMYRENE NUMBER TWO;PALMYRENE NUMBER THREE
PALMYRENE NUMBER FOUR;PALMYRENE NUMBER FIVE;PALMYRENE NUMBER TEN;PALMYRENE NUMBER TWENTY
NABATAEAN LETTER FINAL ALEPH;NABATAEAN LETTER ALEPH;NABATAEAN LETTER FINAL BETH
NABATAEAN LETTER BETH;NABATAEAN LETTER GIMEL;NABATAEAN LETTER DALETH;NABATAEAN LETTER FINAL HE
NABATAEAN LETTER HE;NABATAEAN LETTER WAW;NABATAEAN LETTER ZAYIN;NABATAEAN LETTER HETH
NABATAEAN LETTER TETH;NABATAEAN LETTER FINAL YODH;NABATAEAN LETTER YODH
NABATAEAN LETTER FINAL KAPH;NABATAEAN LETTER KAPH;NABATAEAN LETTER FINAL LAMEDH
NABATAEAN LETTER LAMEDH;NABATAEAN LETTER FINAL MEM;NABATAEAN LETTER MEM
NABATAEAN LETTER FINAL NUN;NABATAEAN LETTER NUN;NABATAEAN LETTER SAMEKH;NABATAEAN LETTER AYIN
NABATAEAN LETTER PE;NABATAEAN LETTER SADHE;NABATAEAN LETTER QOPH;NABATAEAN LETTER RESH
NABATAEAN LETTER FINAL SHIN;NABATAEAN LETTER SHIN;NABATAEAN LETTER TAW"),
  (0x108a7, "NABATAEAN NUMBER ONE;NABATAEAN NUMBER TWO;NABATAEAN NUMBER THREE
NABATAEAN NUMBER FOUR;NABATAEAN CRUCIFORM NUMBER FOUR;NABATAEAN NUMBER FIVE;NABATAEAN NUMBER TEN
NABATAEAN NUMBER TWENTY;NABATAEAN NUMBER ONE HUNDRED"),
  (0x108e0, "HATRAN LETTER ALEPH;HATRAN LETTER BETH;HATRAN LETTER GIMEL;HATRAN LETTER DALETH-RESH
HATRAN LETTER HE;HATRAN LETTER WAW;HATRAN LETTER ZAYN;HATRAN LETTER HETH;HATRAN LETTER TETH
HATRAN LETTER YODH;HATRAN LETTER KAPH;HATRAN LETTER LAMEDH;HATRAN LETTER MEM;HATRAN LETTER NUN
HATRAN LETTER SAMEKH;HATRAN LETTER AYN;HATRAN LETTER PE;HATRAN LETTER SADHE;HATRAN LETTER QOPH"),
  (0x108f4, "HATRAN LETTER SHIN;HATRAN LETTER TAW"),
  (0x108fb, "HATRAN NUMBER ONE;HATRAN NUMBER FIVE;HATRAN NUMBER TEN;HATRAN NUMBER TWENTY
HATRAN NUMBER ONE HUNDRED;PHOENICIAN LETTER ALF;PHOENICIAN LETTER BET;PHOENICIAN LETTER GAML
PHOENICIAN LETTER DELT;PHOENICIAN LETTER HE;PHOENICIAN LETTER WAU;PHOENICIAN LETTER ZAI
PHOENICIAN LETTER HET;PHOENICIAN LETTER TET;PHOENICIAN LETTER YOD;PHOENICIAN LETTER KAF
PHOENICIAN LETTER LAMD;PHOENICIAN LETTER MEM;PHOENICIAN LETTER NUN;PHOENICIAN LETTER SEMK
PHOENICIAN LETTER AIN;PHOENICIAN LETTER PE;PHOENICIAN LETTER SADE;PHOENICIAN LETTER QOF
PHOENICIAN LETTER ROSH;PHOENICIAN LETTER SHIN;PHOENICIAN LETTER TAU;PHOENICIAN NUMBER ONE
PHOENICIAN NUMBER TEN;PHOENICIAN NUMBER TWENTY;PHOENICIAN NUMBER ONE HUNDRED
PHOENICIAN NUMBER TWO;PHOENICIAN NUMBER THREE"),
  (0x1091f, "PHOENICIAN WORD SEPARATOR;LYDIAN LETTER A;LYDIAN LETTER B;LYDIAN LETTER G
LYDIAN LETTER D;LYDIAN LETTER E;LYDIAN LETTER V;LYDIAN LETTER I;LYDIAN LETTER Y;LYDIAN LETTER K
LYDIAN LETTER L;LYDIAN LETTER M;LYDIAN LETTER N;LYDIAN LETTER O;LYDIAN LETTER R;LYDIAN LETTER SS
LYDIAN LETTER T;LYDIAN LETTER U;LYDIAN LETTER F;LYDIAN LETTER Q;LYDIAN LETTER S;LYDIAN LETTER TT
LYDIAN LETTER AN;LYDIAN LETTER EN;LYDIAN LETTER LY;LYDIAN LETTER NN;LYDIAN LETTER C"),
  (0x1093f, "LYDIAN TRIANGULAR MARK"),
  (0x10980, "MEROITIC HIEROGLYPHIC LETTER A;MEROITIC HIEROGLYPHIC LETTER E
MEROITIC HIEROGLYPHIC LETTER I;MEROITIC HIEROGLYPHIC LETTER O;MEROITIC HIEROGLYPHIC LETTER YA
MEROITIC HIEROGLYPHIC LETTER WA;MEROITIC HIEROGLYPHIC LETTER BA;MEROITIC HIEROGLYPHIC LETTER BA-2
MEROITIC HIEROGLYPHIC LETTER PA;MEROITIC HIEROGLYPHIC LETTER MA;MEROITIC HIEROGLYPHIC LETTER NA
MEROITIC HIEROGLYPHIC LETTER NA-2;MEROITIC HIEROGLYPHIC LETTER NE
MEROITIC HIEROGLYPHIC LETTER NE-2;MEROITIC HIEROGLYPHIC LETTER RA
MEROITIC HIEROGLYPHIC LETTER RA-2;MEROITIC HIEROGLYPHIC LETTER LA
MEROITIC HIEROGLYPHIC LETTER KHA;MEROITIC HIEROGLYPHIC LETTER HHA;MEROITIC HIEROGLYPHIC LETTER SA
MEROITIC HIEROGLYPHIC LETTER SA-2;MEROITIC HIEROGLYPHIC LETTER SE;MEROITIC HIEROGLYPHIC LETTER KA
MEROITIC HIEROGLYPHIC LETTER QA;MEROITIC HIEROGLYPHIC LETTER TA;MEROITIC HIEROGLYPHIC LETTER TA-2
MEROITIC HIEROGLYPHIC LETTER TE;MEROITIC HIEROGLYPHIC LETTER TE-2;MEROITIC HIEROGLYPHIC LETTER TO
MEROITIC HIEROGLYPHIC LETTER DA;MEROITIC HIEROGLYPHIC SYMBOL VIDJ
MEROITIC HIEROGLYPHIC SYMBOL VIDJ-2;MEROITIC CURSIVE LETTER A;MEROITIC CURSIVE LETTER E
MEROITIC CURSIVE LETTER I;MEROITIC CURSIVE LETTER O;MEROITIC CURSIVE LETTER YA
MEROITIC CURSIVE LETTER WA;MEROITIC CURSIVE LETTER BA;MEROITIC CURSIVE LETTER PA
MEROITIC CURSIVE LETTER MA;MEROITIC CURSIVE LETTER NA;MEROITIC CURSIVE LETTER NE
MEROITIC CURSIVE LETTER RA;MEROITIC CURSIVE LETTER LA;MEROITIC CURSIVE LETTER KHA
MEROITIC CURSIVE LETTER HHA;MEROITIC CURSIVE LETTER SA;MEROITIC CURSIVE LETTER ARCHAIC SA
MEROITIC CURSIVE LETTER SE;MEROITIC CURSIVE LETTER KA;MEROITIC CURSIVE LETTER QA
MEROITIC CURSIVE LETTER TA;MEROITIC CURSIVE LETTER TE;MEROITIC CURSIVE LETTER TO
MEROITIC CURSIVE LETTER DA"),
  (0x109bc, "MEROITIC CURSIVE FRACTION ELEVEN TWELFTHS;MEROITIC CURSIVE FRACTION ONE HALF
MEROITIC CURSIVE LOGOGRAM RMT;MEROITIC CURSIVE LOGOGRAM IMN;MEROITIC CURSIVE NUMBER ONE
MEROITIC CURSIVE NUMBER TWO;MEROITIC CURSIVE NUMBER THREE;MEROITIC CURSIVE NUMBER FOUR
MEROITIC CURSIVE NUMBER FIVE;MEROITIC CURSIVE NUMBER SIX;MEROITIC CURSIVE NUMBER SEVEN
MEROITIC CURSIVE NUMBER EIGHT;MEROITIC CURSIVE NUMBER NINE;MEROITIC CURSIVE NUMBER TEN
MEROITIC CURSIVE NUMBER TWENTY;MEROITIC CURSIVE NUMBER THIRTY;MEROITIC CURSIVE NUMBER FORTY
MEROITIC CURSIVE NUMBER FIFTY;MEROITIC CURSIVE NUMBER SIXTY;MEROITIC CURSIVE NUMBER SEVENTY"),
  (0x109d2, "MEROITIC CURSIVE NUMBER ONE HUNDRED;MEROITIC CURSIVE NUMBER TWO HUNDRED
MEROITIC CURSIVE NUMBER THREE HUNDRED;MEROITIC CURSIVE NUMBER FOUR HUNDRED
MEROITIC CURSIVE NUMBER FIVE HUNDRED;MEROITIC CURSIVE NUMBER SIX HUNDRED
MEROITIC CURSIVE NUMBER SEVEN HUNDRED;MEROITIC CURSIVE NUMBER EIGHT HUNDRED
MEROITIC CURSIVE NUMBER NINE HUNDRED;MEROITIC CURSIVE NUMBER ONE THOUSAND
MEROITIC CURSIVE NUMBER TWO THOUSAND;MEROITIC CURSIVE NUMBER THREE THOUSAND
MEROITIC CURSIVE NUMBER FOUR THOUSAND;MEROITIC CURSIVE NUMBER FIVE THOUSAND
MEROITIC CURSIVE NUMBER SIX THOUSAND;MEROITIC CURSIVE NUMBER SEVEN THOUSAND
MEROITIC CURSIVE NUMBER EIGHT THOUSAND;MEROITIC CURSIVE NUMBER NINE THOUSAND
MEROITIC CURSIVE NUMBER TEN THOUSAND;MEROITIC CURSIVE NUMBER TWENTY THOUSAND
MEROITIC CURSIVE NUMBER THIRTY THOUSAND;MEROITIC CURSIVE NUMBER FORTY THOUSAND
MEROITIC CURSIVE NUMBER FIFTY THOUSAND;MEROITIC CURSIVE NUMBER SIXTY THOUSAND
MEROITIC CURSIVE NUMBER SEVENTY THOUSAND;MEROITIC CURSIVE NUMBER EIGHTY THOUSAND
MEROITIC CURSIVE NUMBER NINETY THOUSAND;MEROITIC CURSIVE NUMBER ONE HUNDRED THOUSAND
MEROITIC CURSIVE NUMBER TWO HUNDRED THOUSAND;MEROITIC CURSIVE NUMBER THREE HUNDRED THOUSAND
MEROITIC CURSIVE NUMBER FOUR HUNDRED THOUSAND;MEROITIC CURSIVE NUMBER FIVE HUNDRED THOUSAND
MEROITIC CURSIVE NUMBER SIX HUNDRED THOUSAND;MEROITIC CURSIVE NUMBER SEVEN HUNDRED THOUSAND
MEROITIC CURSIVE NUMBER EIGHT HUNDRED THOUSAND;MEROITIC CURSIVE NUMBER NINE HUNDRED THOUSAND
MEROITIC CURSIVE FRACTION ONE TWELFTH;MEROITIC CURSIVE FRACTION TWO TWELFTHS
MEROITIC CURSIVE FRACTION THREE TWELFTHS;MEROITIC CURSIVE FRACTION FOUR TWELFTHS
MEROITIC CURSIVE FRACTION FIVE TWELFTHS;MEROITIC CURSIVE FRACTION SIX TWELFTHS
MEROITIC CURSIVE FRACTION SEVEN TWELFTHS;MEROITIC CURSIVE FRACTION EIGHT TWELFTHS
MEROITIC CURSIVE FRACTION NINE TWELFTHS;MEROITIC CURSIVE FRACTION TEN TWELFTHS
KHAROSHTHI LETTER A;KHAROSHTHI VOWEL SIGN I;KHAROSHTHI VOWEL SIGN U
KHAROSHTHI VOWEL SIGN VOCALIC R"),
  (0x10a05, "KHAROSHTHI VOWEL SIGN E;KHAROSHTHI VOWEL SIGN O"),
  (0x10a0c, "KHAROSHTHI VOWEL LENGTH MARK;KHAROSHTHI SIGN DOUBLE RING BELOW
KHAROSHTHI SIGN ANUSVARA;KHAROSHTHI SIGN VISARGA;KHAROSHTHI LETTER KA;KHAROSHTHI LETTER KHA
KHAROSHTHI LETTER GA;KHAROSHTHI LETTER GHA"),
  (0x10a15, "KHAROSHTHI LETTER CA;KHAROSHTHI LETTER CHA;KHAROSHTHI LETTER JA"),
  (0x10a19, "KHAROSHTHI LETTER NYA;KHAROSHTHI LETTER TTA;KHAROSHTHI LETTER TTHA
KHAROSHTHI LETTER DDA;KHAROSHTHI LETTER DDHA;KHAROSHTHI LETTER NNA;KHAROSHTHI LETTER TA
KHAROSHTHI LETTER THA;KHAROSHTHI LETTER DA;KHAROSHTHI LETTER DHA;KHAROSHTHI LETTER NA
KHAROSHTHI LETTER PA;KHAROSHTHI LETTER PHA;KHAROSHTHI LETTER BA;KHAROSHTHI LETTER BHA
KHAROSHTHI LETTER MA;KHAROSHTHI LETTER YA;KHAROSHTHI LETTER RA;KHAROSHTHI LETTER LA
KHAROSHTHI LETTER VA;KHAROSHTHI LETTER SHA;KHAROSHTHI LETTER SSA;KHAROSHTHI LETTER SA
KHAROSHTHI LETTER ZA;KHAROSHTHI LETTER HA;KHAROSHTHI LETTER KKA;KHAROSHTHI LETTER TTTHA
KHAROSHTHI LETTER TTTA;KHAROSHTHI LETTER VHA"),
  (0x10a38, "KHAROSHTHI SIGN BAR ABOVE;KHAROSHTHI SIGN CAUDA;KHAROSHTHI SIGN DOT BELOW"),
  (0x10a3f, "KHAROSHTHI VIRAMA;KHAROSHTHI DIGIT ONE;KHAROSHTHI DIGIT TWO;KHAROSHTHI DIGIT THREE
KHAROSHTHI DIGIT FOUR;KHAROSHTHI NUMBER TEN;KHAROSHTHI NUMBER TWENTY
KHAROSHTHI NUMBER ONE HUNDRED;KHAROSHTHI NUMBER ONE THOUSAND;KHAROSHTHI FRACTION ONE HALF"),
  (0x10a50, "KHAROSHTHI PUNCTUATION DOT;KHAROSHTHI PUNCTUATION SMALL CIRCLE
KHAROSHTHI PUNCTUATION CIRCLE;KHAROSHTHI PUNCTUATION CRESCENT BAR;KHAROSHTHI PUNCTUATION MANGALAM
KHAROSHTHI PUNCTUATION LOTUS;KHAROSHTHI PUNCTUATION DANDA;KHAROSHTHI PUNCTUATION DOUBLE DANDA
KHAROSHTHI PUNCTUATION LINES"),
  (0x10a60, "OLD SOUTH ARABIAN LETTER HE;OLD SOUTH ARABIAN LETTER LAMEDH
OLD SOUTH ARABIAN LETTER HETH;OLD SOUTH ARABIAN LETTER MEM;OLD SOUTH ARABIAN LETTER QOPH
OLD SOUTH ARABIAN LETTER WAW;OLD SOUTH ARABIAN LETTER SHIN;OLD SOUTH ARABIAN LETTER RESH
OLD SOUTH ARABIAN LETTER BETH;OLD SOUTH ARABIAN LETTER TAW;OLD SOUTH ARABIAN LETTER SAT
OLD SOUTH ARABIAN LETTER KAPH;OLD SOUTH ARABIAN LETTER NUN;OLD SOUTH ARABIAN LETTER KHETH
OLD SOUTH ARABIAN LETTER SADHE;OLD SOUTH ARABIAN LETTER SAMEKH;OLD SOUTH ARABIAN LETTER FE
OLD SOUTH ARABIAN LETTER ALEF;OLD SOUTH ARABIAN LETTER AYN;OLD SOUTH ARABIAN LETTER DHADHE
OLD SOUTH ARABIAN LETTER GIMEL;OLD SOUTH ARABIAN LETTER DALETH;OLD SOUTH ARABIAN LETTER GHAYN
OLD SOUTH ARABIAN LETTER TETH;OLD SOUTH ARABIAN LETTER ZAYN;OLD SOUTH ARABIAN LETTER DHALETH
OLD SOUTH ARABIAN LETTER YODH;OLD SOUTH ARABIAN LETTER THAW;OLD SOUTH ARABIAN LETTER THETH
OLD SOUTH ARABIAN NUMBER ONE;OLD SOUTH ARABIAN NUMBER FIFTY;OLD SOUTH ARABIAN NUMERIC INDICATOR
OLD NORTH ARABIAN LETTER HEH;OLD NORTH ARABIAN LETTER LAM;OLD NORTH ARABIAN LETTER HAH
OLD NORTH ARABIAN LETTER MEEM;OLD NORTH ARABIAN LETTER QAF;OLD NORTH ARABIAN LETTER WAW
OLD NORTH ARABIAN LETTER ES-2;OLD NORTH ARABIAN LETTER REH;OLD NORTH ARABIAN LETTER BEH
OLD NORTH ARABIAN LETTER TEH;OLD NORTH ARABIAN LETTER ES-1;OLD NORTH ARABIAN LETTER KAF
OLD NORTH ARABIAN LETTER NOON;OLD NORTH ARABIAN LETTER KHAH;OLD NORTH ARABIAN LETTER SAD
OLD NORTH ARABIAN LETTER ES-3;OLD NORTH ARABIAN LETTER FEH;OLD NORTH ARABIAN LETTER ALEF
OLD NORTH ARABIAN LETTER AIN;OLD NORTH ARABIAN LETTER DAD;OLD NORTH ARABIAN LETTER GEEM
OLD NORTH ARABIAN LETTER DAL;OLD NORTH ARABIAN LETTER GHAIN;OLD NORTH ARABIAN LETTER TAH
OLD NORTH ARABIAN LETTER ZAIN;OLD NORTH ARABIAN LETTER THAL;OLD NORTH ARABIAN LETTER YEH
OLD NORTH ARABIAN LETTER THEH;OLD NORTH ARABIAN LETTER ZAH;OLD NORTH ARABIAN NUMBER ONE
OLD NORTH ARABIAN NUMBER TEN;OLD NORTH ARABIAN NUMBER TWENTY"),
  (0x10ac0, "MANICHAEAN LETTER ALEPH;MANICHAEAN LETTER BETH;MANICHAEAN LETTER BHETH
MANICHAEAN LETTER GIMEL;MANICHAEAN LETTER GHIMEL;MANICHAEAN LETTER DALETH;MANICHAEAN LETTER HE
MANICHAEAN LETTER WAW;MANICHAEAN SIGN UD;MANICHAEAN LETTER ZAYIN;MANICHAEAN LETTER ZHAYIN
MANICHAEAN LETTER JAYIN;MANICHAEAN LETTER JHAYIN;MANICHAEAN LETTER HETH;MANICHAEAN LETTER TETH
MANICHAEAN LETTER YODH;MANICHAEAN LETTER KAPH;MANICHAEAN LETTER XAPH;MANICHAEAN LETTER KHAPH
MANICHAEAN LETTER LAMEDH;MANICHAEAN LETTER DHAMEDH;MANICHAEAN LETTER THAMEDH
MANICHAEAN LETTER MEM;MANICHAEAN LETTER NUN;MANICHAEAN LETTER SAMEKH;MANICHAEAN LETTER AYIN
MANICHAEAN LETTER AAYIN;MANICHAEAN LETTER PE;MANICHAEAN LETTER FE;MANICHAEAN LETTER SADHE
MANICHAEAN LETTER QOPH;MANICHAEAN LETTER XOPH;MANICHAEAN LETTER QHOPH;MANICHAEAN LETTER RESH
MANICHAEAN LETTER SHIN;MANICHAEAN LETTER SSHIN;MANICHAEAN LETTER TAW
MANICHAEAN ABBREVIATION MARK ABOVE;MANICHAEAN ABBREVIATION MARK BELOW"),
  (0x10aeb, "MANICHAEAN NUMBER ONE;MANICHAEAN NUMBER FIVE;MANICHAEAN NUMBER TEN
MANICHAEAN NUMBER TWENTY;MANICHAEAN NUMBER ONE HUNDRED;MANICHAEAN PUNCTUATION STAR
MANICHAEAN PUNCTUATION FLEURON;MANICHAEAN PUNCTUATION DOUBLE DOT WITHIN DOT
MANICHAEAN PUNCTUATION DOT WITHIN DOT;MANICHAEAN PUNCTUATION DOT;MANICHAEAN PUNCTUATION TWO DOTS
MANICHAEAN PUNCTUATION LINE FILLER"),
  (0x10b00, "AVESTAN LETTER A;AVESTAN LETTER AA;AVESTAN LETTER AO;AVESTAN LETTER AAO
AVESTAN LETTER AN;AVESTAN LETTER AAN;AVESTAN LETTER AE;AVESTAN LETTER AEE;AVESTAN LETTER E
AVESTAN LETTER EE;AVESTAN LETTER O;AVESTAN LETTER OO;AVESTAN LETTER I;AVESTAN LETTER II
AVESTAN LETTER U;AVESTAN LETTER UU;AVESTAN LETTER KE;AVESTAN LETTER XE;AVESTAN LETTER XYE
AVESTAN LETTER XVE;AVESTAN LETTER GE;AVESTAN LETTER GGE;AVESTAN LETTER GHE;AVESTAN LETTER CE
AVESTAN LETTER JE;AVESTAN LETTER TE;AVESTAN LETTER THE;AVESTAN LETTER DE;AVESTAN LETTER DHE
AVESTAN LETTER TTE;AVESTAN LETTER PE;AVESTAN LETTER FE;AVESTAN LETTER BE;AVESTAN LETTER BHE
AVESTAN LETTER NGE;AVESTAN LETTER NGYE;AVESTAN LETTER NGVE;AVESTAN LETTER NE;AVESTAN LETTER NYE
AVESTAN LETTER NNE;AVESTAN LETTER ME;AVESTAN LETTER HME;AVESTAN LETTER YYE;AVESTAN LETTER YE
AVESTAN LETTER VE;AVESTAN LETTER RE;AVESTAN LETTER LE;AVESTAN LETTER SE;AVESTAN LETTER ZE
AVESTAN LETTER SHE;AVESTAN LETTER ZHE;AVESTAN LETTER SHYE;AVESTAN LETTER SSHE;AVESTAN LETTER HE"),
  (0x10b39, "AVESTAN ABBREVIATION MARK;TINY TWO DOTS OVER ONE DOT PUNCTUATION
SMALL TWO DOTS OVER ONE DOT PUNCTUATION;LARGE TWO DOTS OVER ONE DOT PUNCTUATION
LARGE ONE DOT OVER TWO DOTS PUNCTUATION;LARGE TWO RINGS OVER ONE RING PUNCTUATION
LARGE ONE RING OVER TWO RINGS PUNCTUATION;INSCRIPTIONAL PARTHIAN LETTER ALEPH
INSCRIPTIONAL PARTHIAN LETTER BETH;INSCRIPTIONAL PARTHIAN LETTER GIMEL
INSCRIPTIONAL PARTHIAN LETTER DALETH;INSCRIPTIONAL PARTHIAN LETTER HE
INSCRIPTIONAL PARTHIAN LETTER WAW;INSCRIPTIONAL PARTHIAN LETTER ZAYIN
INSCRIPTIONAL PARTHIAN LETTER HETH;INSCRIPTIONAL PARTHIAN LETTER TETH
INSCRIPTIONAL PARTHIAN LETTER YODH;INSCRIPTIONAL PARTHIAN LETTER KAPH
INSCRIPTIONAL PARTHIAN LETTER LAMEDH;INSCRIPTIONAL PARTHIAN LETTER MEM
INSCRIPTIONAL PARTHIAN LETTER NUN;INSCRIPTIONAL PARTHIAN LETTER SAMEKH
INSCRIPTIONAL PARTHIAN LETTER AYIN;INSCRIPTIONAL PARTHIAN LETTER PE
INSCRIPTIONAL PARTHIAN LETTER SADHE;INSCRIPTIONAL PARTHIAN LETTER QOPH
INSCRIPTIONAL PARTHIAN LETTER RESH;INSCRIPTIONAL PARTHIAN LETTER SHIN
INSCRIPTIONAL PARTHIAN LETTER TAW"),
  (0x10b58, "INSCRIPTIONAL PARTHIAN NUMBER ONE;INSCRIPTIONAL PARTHIAN NUMBER TWO
INSCRIPTIONAL PARTHIAN NUMBER THREE;INSCRIPTIONAL PARTHIAN NUMBER FOUR
INSCRIPTIONAL PARTHIAN NUMBER TEN;INSCRIPTIONAL PARTHIAN NUMBER TWENTY
INSCRIPTIONAL PARTHIAN NUMBER ONE HUNDRED;INSCRIPTIONAL PARTHIAN NUMBER ONE THOUSAND
INSCRIPTIONAL PAHLAVI LETTER ALEPH;INSCRIPTIONAL PAHLAVI LETTER BETH
INSCRIPTIONAL PAHLAVI LETTER GIMEL;INSCRIPTIONAL PAHLAVI LETTER DALETH
INSCRIPTIONAL PAHLAVI LETTER HE;INSCRIPTIONAL PAHLAVI LETTER WAW-AYIN-RESH
INSCRIPTIONAL PAHLAVI LETTER ZAYIN;INSCRIPTIONAL PAHLAVI LETTER HETH
INSCRIPTIONAL PAHLAVI LETTER TETH;INSCRIPTIONAL PAHLAVI LETTER YODH
INSCRIPTIONAL PAHLAVI LETTER KAPH;INSCRIPTIONAL PAHLAVI LETTER LAMEDH
INSCRIPTIONAL PAHLAVI LETTER MEM-QOPH;INSCRIPTIONAL PAHLAVI LETTER NUN
INSCRIPTIONAL PAHLAVI LETTER SAMEKH;INSCRIPTIONAL PAHLAVI LETTER PE
INSCRIPTIONAL PAHLAVI LETTER SADHE;INSCRIPTIONAL PAHLAVI LETTER SHIN
INSCRIPTIONAL PAHLAVI LETTER TAW"),
  (0x10b78, "INSCRIPTIONAL PAHLAVI NUMBER ONE;INSCRIPTIONAL PAHLAVI NUMBER TWO
INSCRIPTIONAL PAHLAVI NUMBER THREE;INSCRIPTIONAL PAHLAVI NUMBER FOUR
INSCRIPTIONAL PAHLAVI NUMBER TEN;INSCRIPTIONAL PAHLAVI NUMBER TWENTY
INSCRIPTIONAL PAHLAVI NUMBER ONE HUNDRED;INSCRIPTIONAL PAHLAVI NUMBER ONE THOUSAND
PSALTER PAHLAVI LETTER ALEPH;PSALTER PAHLAVI LETTER BETH;PSALTER PAHLAVI LETTER GIMEL
PSALTER PAHLAVI LETTER DALETH;PSALTER PAHLAVI LETTER HE;PSALTER PAHLAVI LETTER WAW-AYIN-RESH
PSALTER PAHLAVI LETTER ZAYIN;PSALTER PAHLAVI LETTER HETH;PSALTER PAHLAVI LETTER YODH
PSALTER PAHLAVI LETTER KAPH;PSALTER PAHLAVI LETTER LAMEDH;PSALTER PAHLAVI LETTER MEM-QOPH
PSALTER PAHLAVI LETTER NUN;PSALTER PAHLAVI LETTER SAMEKH;PSALTER PAHLAVI LETTER PE
PSALTER PAHLAVI LETTER SADHE;PSALTER PAHLAVI LETTER SHIN;PSALTER PAHLAVI LETTER TAW"),
  (0x10b99, "PSALTER PAHLAVI SECTION MARK;PSALTER PAHLAVI TURNED SECTION MARK
PSALTER PAHLAVI FOUR DOTS WITH CROSS;PSALTER PAHLAVI FOUR DOTS WITH DOT"),
  (0x10ba9, "PSALTER PAHLAVI NUMBER ONE;PSALTER PAHLAVI NUMBER TWO;PSALTER PAHLAVI NUMBER THREE
PSALTER PAHLAVI NUMBER FOUR;PSALTER PAHLAVI NUMBER TEN;PSALTER PAHLAVI NUMBER TWENTY
PSALTER PAHLAVI NUMBER ONE HUNDRED"),
  (0x10c00, "OLD TURKIC LETTER ORKHON A;OLD TURKIC LETTER YENISEI A;OLD TURKIC LETTER YENISEI AE
OLD TURKIC LETTER ORKHON I;OLD TURKIC LETTER YENISEI I;OLD TURKIC LETTER YENISEI E
OLD TURKIC LETTER ORKHON O;OLD TURKIC LETTER ORKHON OE;OLD TURKIC LETTER YENISEI OE
OLD TURKIC LETTER ORKHON AB;OLD TURKIC LETTER YENISEI AB;OLD TURKIC LETTER ORKHON AEB
OLD TURKIC LETTER YENISEI AEB;OLD TURKIC LETTER ORKHON AG;OLD TURKIC LETTER YENISEI AG
OLD TURKIC LETTER ORKHON AEG;OLD TURKIC LETTER YENISEI AEG;OLD TURKIC LETTER ORKHON AD
OLD TURKIC LETTER YENISEI AD;OLD TURKIC LETTER ORKHON AED;OLD TURKIC LETTER ORKHON EZ
OLD TURKIC LETTER YENISEI EZ;OLD TURKIC LETTER ORKHON AY;OLD TURKIC LETTER YENISEI AY
OLD TURKIC LETTER ORKHON AEY;OLD TURKIC LETTER YENISEI AEY;OLD TURKIC LETTER ORKHON AEK
OLD TURKIC LETTER YENISEI AEK;OLD TURKIC LETTER ORKHON OEK;OLD TURKIC LETTER YENISEI OEK
OLD TURKIC LETTER ORKHON AL;OLD TURKIC LETTER YENISEI AL;OLD TURKIC LETTER ORKHON AEL
OLD TURKIC LETTER ORKHON ELT;OLD TURKIC LETTER ORKHON EM;OLD TURKIC LETTER ORKHON AN
OLD TURKIC LETTER ORKHON AEN;OLD TURKIC LETTER YENISEI AEN;OLD TURKIC LETTER ORKHON ENT
OLD TURKIC LETTER YENISEI ENT;OLD TURKIC LETTER ORKHON ENC;OLD TURKIC LETTER YENISEI ENC
OLD TURKIC LETTER ORKHON ENY;OLD TURKIC LETTER YENISEI ENY;OLD TURKIC LETTER YENISEI ANG
OLD TURKIC LETTER ORKHON ENG;OLD TURKIC LETTER YENISEI AENG;OLD TURKIC LETTER ORKHON EP
OLD TURKIC LETTER ORKHON OP;OLD TURKIC LETTER ORKHON IC;OLD TURKIC LETTER ORKHON EC
OLD TURKIC LETTER YENISEI EC;OLD TURKIC LETTER ORKHON AQ;OLD TURKIC LETTER YENISEI AQ
OLD TURKIC LETTER ORKHON IQ;OLD TURKIC LETTER YENISEI IQ;OLD TURKIC LETTER ORKHON OQ
OLD TURKIC LETTER YENISEI OQ;OLD TURKIC LETTER ORKHON AR;OLD TURKIC LETTER YENISEI AR
OLD TURKIC LETTER ORKHON AER;OLD TURKIC LETTER ORKHON AS;OLD TURKIC LETTER ORKHON AES
OLD TURKIC LETTER ORKHON ASH;OLD TURKIC LETTER YENISEI ASH;OLD TURKIC LETTER ORKHON ESH
OLD TURKIC LETTER YENISEI ESH;OLD TURKIC LETTER ORKHON AT;OLD TURKIC LETTER YENISEI AT
OLD TURKIC LETTER ORKHON AET;OLD TURKIC LETTER YENISEI AET;OLD TURKIC LETTER ORKHON OT
OLD TURKIC LETTER ORKHON BASH"),
  (0x10c80, "OLD HUNGARIAN CAPITAL LETTER A;OLD HUNGARIAN CAPITAL LETTER AA
OLD HUNGARIAN CAPITAL LETTER EB;OLD HUNGARIAN CAPITAL LETTER AMB;OLD HUNGARIAN CAPITAL LETTER EC
OLD HUNGARIAN CAPITAL LETTER ENC;OLD HUNGARIAN CAPITAL LETTER ECS;OLD HUNGARIAN CAPITAL LETTER ED
OLD HUNGARIAN CAPITAL LETTER AND;OLD HUNGARIAN CAPITAL LETTER E
OLD HUNGARIAN CAPITAL LETTER CLOSE E;OLD HUNGARIAN CAPITAL LETTER EE
OLD HUNGARIAN CAPITAL LETTER EF;OLD HUNGARIAN CAPITAL LETTER EG;OLD HUNGARIAN CAPITAL LETTER EGY
OLD HUNGARIAN CAPITAL LETTER EH;OLD HUNGARIAN CAPITAL LETTER I;OLD HUNGARIAN CAPITAL LETTER II
OLD HUNGARIAN CAPITAL LETTER EJ;OLD HUNGARIAN CAPITAL LETTER EK;OLD HUNGARIAN CAPITAL LETTER AK
OLD HUNGARIAN CAPITAL LETTER UNK;OLD HUNGARIAN CAPITAL LETTER EL;OLD HUNGARIAN CAPITAL LETTER ELY
OLD HUNGARIAN CAPITAL LETTER EM;OLD HUNGARIAN CAPITAL LETTER EN;OLD HUNGARIAN CAPITAL LETTER ENY
OLD HUNGARIAN CAPITAL LETTER O;OLD HUNGARIAN CAPITAL LETTER OO
OLD HUNGARIAN CAPITAL LETTER NIKOLSBURG OE;OLD HUNGARIAN CAPITAL LETTER RUDIMENTA OE
OLD HUNGARIAN CAPITAL LETTER OEE;OLD HUNGARIAN CAPITAL LETTER EP;OLD HUNGARIAN CAPITAL LETTER EMP
OLD HUNGARIAN CAPITAL LETTER ER;OLD HUNGARIAN CAPITAL LETTER SHORT ER
OLD HUNGARIAN CAPITAL LETTER ES;OLD HUNGARIAN CAPITAL LETTER ESZ;OLD HUNGARIAN CAPITAL LETTER ET
OLD HUNGARIAN CAPITAL LETTER ENT;OLD HUNGARIAN CAPITAL LETTER ETY
OLD HUNGARIAN CAPITAL LETTER ECH;OLD HUNGARIAN CAPITAL LETTER U;OLD HUNGARIAN CAPITAL LETTER UU
OLD HUNGARIAN CAPITAL LETTER NIKOLSBURG UE;OLD HUNGARIAN CAPITAL LETTER RUDIMENTA UE
OLD HUNGARIAN CAPITAL LETTER EV;OLD HUNGARIAN CAPITAL LETTER EZ;OLD HUNGARIAN CAPITAL LETTER EZS
OLD HUNGARIAN CAPITAL LETTER ENT-SHAPED SIGN;OLD HUNGARIAN CAPITAL LETTER US"),
  (0x10cc0, "OLD HUNGARIAN SMALL LETTER A;OLD HUNGARIAN SMALL LETTER AA
OLD HUNGARIAN SMALL LETTER EB;OLD HUNGARIAN SMALL LETTER AMB;OLD HUNGARIAN SMALL LETTER EC
OLD HUNGARIAN SMALL LETTER ENC;OLD HUNGARIAN SMALL LETTER ECS;OLD HUNGARIAN SMALL LETTER ED
OLD HUNGARIAN SMALL LETTER AND;OLD HUNGARIAN SMALL LETTER E;OLD HUNGARIAN SMALL LETTER CLOSE E
OLD HUNGARIAN SMALL LETTER EE;OLD HUNGARIAN SMALL LETTER EF;OLD HUNGARIAN SMALL LETTER EG
OLD HUNGARIAN SMALL LETTER EGY;OLD HUNGARIAN SMALL LETTER EH;OLD HUNGARIAN SMALL LETTER I
OLD HUNGARIAN SMALL LETTER II;OLD HUNGARIAN SMALL LETTER EJ;OLD HUNGARIAN SMALL LETTER EK
OLD HUNGARIAN SMALL LETTER AK;OLD HUNGARIAN SMALL LETTER UNK;OLD HUNGARIAN SMALL LETTER EL
OLD HUNGARIAN SMALL LETTER ELY;OLD HUNGARIAN SMALL LETTER EM;OLD HUNGARIAN SMALL LETTER EN
OLD HUNGARIAN SMALL LETTER ENY;OLD HUNGARIAN SMALL LETTER O;OLD HUNGARIAN SMALL LETTER OO
OLD HUNGARIAN SMALL LETTER NIKOLSBURG OE;OLD HUNGARIAN SMALL LETTER RUDIMENTA OE
OLD HUNGARIAN SMALL LETTER OEE;OLD HUNGARIAN SMALL LETTER EP;OLD HUNGARIAN SMALL LETTER EMP
OLD HUNGARIAN SMALL LETTER ER;OLD HUNGARIAN SMALL LETTER SHORT ER;OLD HUNGARIAN SMALL LETTER ES
OLD HUNGARIAN SMALL LETTER ESZ;OLD HUNGARIAN SMALL LETTER ET;OLD HUNGARIAN SMALL LETTER ENT
OLD HUNGARIAN SMALL LETTER ETY;OLD HUNGARIAN SMALL LETTER ECH;OLD HUNGARIAN SMALL LETTER U
OLD HUNGARIAN SMALL LETTER UU;OLD HUNGARIAN SMALL LETTER NIKOLSBURG UE
OLD HUNGARIAN SMALL LETTER RUDIMENTA UE;OLD HUNGARIAN SMALL LETTER EV
OLD HUNGARIAN SMALL LETTER EZ;OLD HUNGARIAN SMALL LETTER EZS
OLD HUNGARIAN SMALL LETTER ENT-SHAPED SIGN;OLD HUNGARIAN SMALL LETTER US"),
  (0x10cfa, "OLD HUNGARIAN NUMBER ONE;OLD HUNGARIAN NUMBER FIVE;OLD HUNGARIAN NUMBER TEN
OLD HUNGARIAN NUMBER FIFTY;OLD HUNGARIAN NUMBER ONE HUNDRED;OLD HUNGARIAN NUMBER ONE THOUSAND
HANIFI ROHINGYA LETTER A;HANIFI ROHINGYA LETTER BA;HANIFI ROHINGYA LETTER PA
HANIFI ROHINGYA LETTER TA;HANIFI ROHINGYA LETTER TTA;HANIFI ROHINGYA LETTER JA
HANIFI ROHINGYA LETTER CA;HANIFI ROHINGYA LETTER HA;HANIFI ROHINGYA LETTER KHA
HANIFI ROHINGYA LETTER FA;HANIFI ROHINGYA LETTER DA;HANIFI ROHINGYA LETTER DDA
HANIFI ROHINGYA LETTER RA;HANIFI ROHINGYA LETTER RRA;HANIFI ROHINGYA LETTER ZA
HANIFI ROHINGYA LETTER SA;HANIFI ROHINGYA LETTER SHA;HANIFI ROHINGYA LETTER KA
HANIFI ROHINGYA LETTER GA;HANIFI ROHINGYA LETTER LA;HANIFI ROHINGYA LETTER MA
HANIFI ROHINGYA LETTER NA;HANIFI ROHINGYA LETTER WA;HANIFI ROHINGYA LETTER KINNA WA
HANIFI ROHINGYA LETTER YA;HANIFI ROHINGYA LETTER KINNA YA;HANIFI ROHINGYA LETTER NGA
HANIFI ROHINGYA LETTER NYA;HANIFI ROHINGYA LETTER VA;HANIFI ROHINGYA VOWEL A
HANIFI ROHINGYA VOWEL I;HANIFI ROHINGYA VOWEL U;HANIFI ROHINGYA VOWEL E;HANIFI ROHINGYA VOWEL O
HANIFI ROHINGYA MARK SAKIN;HANIFI ROHINGYA MARK NA KHONNA;HANIFI ROHINGYA SIGN HARBAHAY
HANIFI ROHINGYA SIGN TAHALA;HANIFI ROHINGYA SIGN TANA;HANIFI ROHINGYA SIGN TASSI"),
  (0x10d30, "HANIFI ROHINGYA DIGIT ZERO;HANIFI ROHINGYA DIGIT ONE;HANIFI ROHINGYA DIGIT TWO
HANIFI ROHINGYA DIGIT THREE;HANIFI ROHINGYA DIGIT FOUR;HANIFI ROHINGYA DIGIT FIVE
HANIFI ROHINGYA DIGIT SIX;HANIFI ROHINGYA DIGIT SEVEN;HANIFI ROHINGYA DIGIT EIGHT
HANIFI ROHINGYA DIGIT NINE"),
  (0x10e60, "RUMI DIGIT ONE;RUMI DIGIT TWO;RUMI DIGIT THREE;RUMI DIGIT FOUR;RUMI DIGIT FIVE
RUMI DIGIT SIX;RUMI DIGIT SEVEN;RUMI DIGIT EIGHT;RUMI DIGIT NINE;RUMI NUMBER TEN
RUMI NUMBER TWENTY;RUMI NUMBER THIRTY;RUMI NUMBER FORTY;RUMI NUMBER FIFTY;RUMI NUMBER SIXTY
RUMI NUMBER SEVENTY;RUMI NUMBER EIGHTY;RUMI NUMBER NINETY;RUMI NUMBER ONE HUNDRED
RUMI NUMBER TWO HUNDRED;RUMI NUMBER THREE HUNDRED;RUMI NUMBER FOUR HUNDRED
RUMI NUMBER FIVE HUNDRED;RUMI NUMBER SIX HUNDRED;RUMI NUMBER SEVEN HUNDRED
RUMI NUMBER EIGHT HUNDRED;RUMI NUMBER NINE HUNDRED;RUMI FRACTION ONE HALF
RUMI FRACTION ONE QUARTER;RUMI FRACTION ONE THIRD;RUMI FRACTION TWO THIRDS"),
  (0x10e80, "YEZIDI LETTER ELIF;YEZIDI LETTER BE;YEZIDI LETTER PE;YEZIDI LETTER PHE
YEZIDI LETTER THE;YEZIDI LETTER SE;YEZIDI LETTER CIM;YEZIDI LETTER CHIM;YEZIDI LETTER CHHIM
YEZIDI LETTER HHA;YEZIDI LETTER XA;YEZIDI LETTER DAL;YEZIDI LETTER ZAL;YEZIDI LETTER RA
YEZIDI LETTER RHA;YEZIDI LETTER ZA;YEZIDI LETTER JA;YEZIDI LETTER SIN;YEZIDI LETTER SHIN
YEZIDI LETTER SAD;YEZIDI LETTER DAD;YEZIDI LETTER TA;YEZIDI LETTER ZE;YEZIDI LETTER EYN
YEZIDI LETTER XHEYN;YEZIDI LETTER FA;YEZIDI LETTER VA;YEZIDI LETTER VA ALTERNATE FORM
YEZIDI LETTER QAF;YEZIDI LETTER KAF;YEZIDI LETTER KHAF;YEZIDI LETTER GAF;YEZIDI LETTER LAM
YEZIDI LETTER MIM;YEZIDI LETTER NUN;YEZIDI LETTER UM;YEZIDI LETTER WAW;YEZIDI LETTER OW
YEZIDI LETTER EW;YEZIDI LETTER HAY;YEZIDI LETTER YOT;YEZIDI LETTER ET"),
  (0x10eab, "YEZIDI COMBINING HAMZA MARK;YEZIDI COMBINING MADDA MARK;YEZIDI HYPHENATION MARK"),
  (0x10eb0, "YEZIDI LETTER LAM WITH DOT ABOVE;YEZIDI LETTER YOT WITH CIRCUMFLEX ABOVE"),
  (0x10f00, "OLD SOGDIAN LETTER ALEPH;OLD SOGDIAN LETTER FINAL ALEPH;OLD SOGDIAN LETTER BETH
OLD SOGDIAN LETTER FINAL BETH;OLD SOGDIAN LETTER GIMEL;OLD SOGDIAN LETTER HE
OLD SOGDIAN LETTER FINAL HE;OLD SOGDIAN LETTER WAW;OLD SOGDIAN LETTER ZAYIN
OLD SOGDIAN LETTER HETH;OLD SOGDIAN LETTER YODH;OLD SOGDIAN LETTER KAPH;OLD SOGDIAN LETTER LAMEDH
OLD SOGDIAN LETTER MEM;OLD SOGDIAN LETTER NUN;OLD SOGDIAN LETTER FINAL NUN
OLD SOGDIAN LETTER FINAL NUN WITH VERTICAL TAIL;OLD SOGDIAN LETTER SAMEKH;OLD SOGDIAN LETTER AYIN
OLD SOGDIAN LETTER ALTERNATE AYIN;OLD SOGDIAN LETTER PE;OLD SOGDIAN LETTER SADHE
OLD SOGDIAN LETTER FINAL SADHE;OLD SOGDIAN LETTER FINAL SADHE WITH VERTICAL TAIL
OLD SOGDIAN LETTER RESH-AYIN-DALETH;OLD SOGDIAN LETTER SHIN;OLD SOGDIAN LETTER TAW
OLD SOGDIAN LETTER FINAL TAW;OLD SOGDIAN LETTER FINAL TAW WITH VERTICAL TAIL
OLD SOGDIAN NUMBER ONE;OLD SOGDIAN NUMBER TWO;OLD SOGDIAN NUMBER THREE;OLD SOGDIAN NUMBER FOUR
OLD SOGDIAN NUMBER FIVE;OLD SOGDIAN NUMBER TEN;OLD SOGDIAN NUMBER TWENTY
OLD SOGDIAN NUMBER THIRTY;OLD SOGDIAN NUMBER ONE HUNDRED;OLD SOGDIAN FRACTION ONE HALF
OLD SOGDIAN LIGATURE AYIN-DALETH"),
  (0x10f30, "SOGDIAN LETTER ALEPH;SOGDIAN LETTER BETH;SOGDIAN LETTER GIMEL;SOGDIAN LETTER HE
SOGDIAN LETTER WAW;SOGDIAN LETTER ZAYIN;SOGDIAN LETTER HETH;SOGDIAN LETTER YODH
SOGDIAN LETTER KAPH;SOGDIAN LETTER LAMEDH;SOGDIAN LETTER MEM;SOGDIAN LETTER NUN
SOGDIAN LETTER SAMEKH;SOGDIAN LETTER AYIN;SOGDIAN LETTER PE;SOGDIAN LETTER SADHE
SOGDIAN LETTER RESH-AYIN;SOGDIAN LETTER SHIN;SOGDIAN LETTER TAW;SOGDIAN LETTER FETH
SOGDIAN LETTER LESH;SOGDIAN INDEPENDENT SHIN;SOGDIAN COMBINING DOT BELOW
SOGDIAN COMBINING TWO DOTS BELOW;SOGDIAN COMBINING DOT ABOVE;SOGDIAN COMBINING TWO DOTS ABOVE
SOGDIAN COMBINING CURVE ABOVE;SOGDIAN COMBINING CURVE BELOW;SOGDIAN COMBINING HOOK ABOVE
SOGDIAN COMBINING HOOK BELOW;SOGDIAN COMBINING LONG HOOK BELOW;SOGDIAN COMBINING RESH BELOW
SOGDIAN COMBINING STROKE BELOW;SOGDIAN NUMBER ONE;SOGDIAN NUMBER TEN;SOGDIAN NUMBER TWENTY
SOGDIAN NUMBER ONE HUNDRED;SOGDIAN PUNCTUATION TWO VERTICAL BARS
SOGDIAN PUNCTUATION TWO VERTICAL BARS WITH DOTS;SOGDIAN PUNCTUATION CIRCLE WITH DOT
SOGDIAN PUNCTUATION TWO CIRCLES WITH DOTS;SOGDIAN PUNCTUATION HALF CIRCLE WITH DOT"),
  (0x10f70, "OLD UYGHUR LETTER ALEPH;OLD UYGHUR LETTER BETH;OLD UYGHUR LETTER GIMEL-HETH
OLD UYGHUR LETTER WAW;OLD UYGHUR LETTER ZAYIN;OLD UYGHUR LETTER FINAL HETH;OLD UYGHUR LETTER YODH
OLD UYGHUR LETTER KAPH;OLD UYGHUR LETTER LAMEDH;OLD UYGHUR LETTER MEM;OLD UYGHUR LETTER NUN
OLD UYGHUR LETTER SAMEKH;OLD UYGHUR LETTER PE;OLD UYGHUR LETTER SADHE;OLD UYGHUR LETTER RESH
OLD UYGHUR LETTER SHIN;OLD UYGHUR LETTER TAW;OLD UYGHUR LETTER LESH
OLD UYGHUR COMBINING DOT ABOVE;OLD UYGHUR COMBINING DOT BELOW;OLD UYGHUR COMBINING TWO DOTS ABOVE
OLD UYGHUR COMBINING TWO DOTS BELOW;OLD UYGHUR PUNCTUATION BAR;OLD UYGHUR PUNCTUATION TWO BARS
OLD UYGHUR PUNCTUATION TWO DOTS;OLD UYGHUR PUNCTUATION FOUR DOTS"),
  (0x10fb0, "CHORASMIAN LETTER ALEPH;CHORASMIAN LETTER SMALL ALEPH;CHORASMIAN LETTER BETH
CHORASMIAN LETTER GIMEL;CHORASMIAN LETTER DALETH;CHORASMIAN LETTER HE;CHORASMIAN LETTER WAW
CHORASMIAN LETTER CURLED WAW;CHORASMIAN LETTER ZAYIN;CHORASMIAN LETTER HETH
CHORASMIAN LETTER YODH;CHORASMIAN LETTER KAPH;CHORASMIAN LETTER LAMEDH;CHORASMIAN LETTER MEM
CHORASMIAN LETTER NUN;CHORASMIAN LETTER SAMEKH;CHORASMIAN LETTER AYIN;CHORASMIAN LETTER PE
CHORASMIAN LETTER RESH;CHORASMIAN LETTER SHIN;CHORASMIAN LETTER TAW;CHORASMIAN NUMBER ONE
CHORASMIAN NUMBER TWO;CHORASMIAN NUMBER THREE;CHORASMIAN NUMBER FOUR;CHORASMIAN NUMBER TEN
CHORASMIAN NUMBER TWENTY;CHORASMIAN NUMBER ONE HUNDRED"),
  (0x10fe0, "ELYMAIC LETTER ALEPH;ELYMAIC LETTER BETH;ELYMAIC LETTER GIMEL;ELYMAIC LETTER DALETH
ELYMAIC LETTER HE;ELYMAIC LETTER WAW;ELYMAIC LETTER ZAYIN;ELYMAIC LETTER HETH;ELYMAIC LETTER TETH
ELYMAIC LETTER YODH;ELYMAIC LETTER KAPH;ELYMAIC LETTER LAMEDH;ELYMAIC LETTER MEM
ELYMAIC LETTER NUN;ELYMAIC LETTER SAMEKH;ELYMAIC LETTER AYIN;ELYMAIC LETTER PE
ELYMAIC LETTER SADHE;ELYMAIC LETTER QOPH;ELYMAIC LETTER RESH;ELYMAIC LETTER SHIN
ELYMAIC LETTER TAW;ELYMAIC LIGATURE ZAYIN-YODH"),
  (0x11000, "BRAHMI SIGN CANDRABINDU;BRAHMI SIGN ANUSVARA;BRAHMI SIGN VISARGA
BRAHMI SIGN JIHVAMULIYA;BRAHMI SIGN UPADHMANIYA;BRAHMI LETTER A;BRAHMI LETTER AA;BRAHMI LETTER I
BRAHMI LETTER II;BRAHMI LETTER U;BRAHMI LETTER UU;BRAHMI LETTER VOCALIC R
BRAHMI LETTER VOCALIC RR;BRAHMI LETTER VOCALIC L;BRAHMI LETTER VOCALIC LL;BRAHMI LETTER E
BRAHMI LETTER AI;BRAHMI LETTER O;BRAHMI LETTER AU;BRAHMI LETTER KA;BRAHMI LETTER KHA
BRAHMI LETTER GA;BRAHMI LETTER GHA;BRAHMI LETTER NGA;BRAHMI LETTER CA;BRAHMI LETTER CHA
BRAHMI LETTER JA;BRAHMI LETTER JHA;BRAHMI LETTER NYA;BRAHMI LETTER TTA;BRAHMI LETTER TTHA
BRAHMI LETTER DDA;BRAHMI LETTER DDHA;BRAHMI LETTER NNA;BRAHMI LETTER TA;BRAHMI LETTER THA
BRAHMI LETTER DA;BRAHMI LETTER DHA;BRAHMI LETTER NA;BRAHMI LETTER PA;BRAHMI LETTER PHA
BRAHMI LETTER BA;BRAHMI LETTER BHA;BRAHMI LETTER MA;BRAHMI LETTER YA;BRAHMI LETTER RA
BRAHMI LETTER LA;BRAHMI LETTER VA;BRAHMI LETTER SHA;BRAHMI LETTER SSA;BRAHMI LETTER SA
BRAHMI LETTER HA;BRAHMI LETTER LLA;BRAHMI LETTER OLD TAMIL LLLA;BRAHMI LETTER OLD TAMIL RRA
BRAHMI LETTER OLD TAMIL NNNA;BRAHMI VOWEL SIGN AA;BRAHMI VOWEL SIGN BHATTIPROLU AA
BRAHMI VOWEL SIGN I;BRAHMI VOWEL SIGN II;BRAHMI VOWEL SIGN U;BRAHMI VOWEL SIGN UU
BRAHMI VOWEL SIGN VOCALIC R;BRAHMI VOWEL SIGN VOCALIC RR;BRAHMI VOWEL SIGN VOCALIC L
BRAHMI VOWEL SIGN VOCALIC LL;BRAHMI VOWEL SIGN E;BRAHMI VOWEL SIGN AI;BRAHMI VOWEL SIGN O
BRAHMI VOWEL SIGN AU;BRAHMI VIRAMA;BRAHMI DANDA;BRAHMI DOUBLE DANDA;BRAHMI PUNCTUATION DOT
BRAHMI PUNCTUATION DOUBLE DOT;BRAHMI PUNCTUATION LINE;BRAHMI PUNCTUATION CRESCENT BAR
BRAHMI PUNCTUATION LOTUS"),
  (0x11052, "BRAHMI NUMBER ONE;BRAHMI NUMBER TWO;BRAHMI NUMBER THREE;BRAHMI NUMBER FOUR
BRAHMI NUMBER FIVE;BRAHMI NUMBER SIX;BRAHMI NUMBER SEVEN;BRAHMI NUMBER EIGHT;BRAHMI NUMBER NINE
BRAHMI NUMBER TEN;BRAHMI NUMBER TWENTY;BRAHMI NUMBER THIRTY;BRAHMI NUMBER FORTY
BRAHMI NUMBER FIFTY;BRAHMI NUMBER SIXTY;BRAHMI NUMBER SEVENTY;BRAHMI NUMBER EIGHTY
BRAHMI NUMBER NINETY;BRAHMI NUMBER ONE HUNDRED;BRAHMI NUMBER ONE THOUSAND;BRAHMI DIGIT ZERO
BRAHMI DIGIT ONE;BRAHMI DIGIT TWO;BRAHMI DIGIT THREE;BRAHMI DIGIT FOUR;BRAHMI DIGIT FIVE
BRAHMI DIGIT SIX;BRAHMI DIGIT SEVEN;BRAHMI DIGIT EIGHT;BRAHMI DIGIT NINE
BRAHMI SIGN OLD TAMIL VIRAMA;BRAHMI LETTER OLD TAMIL SHORT E;BRAHMI LETTER OLD TAMIL SHORT O
BRAHMI VOWEL SIGN OLD TAMIL SHORT E;BRAHMI VOWEL SIGN OLD TAMIL SHORT O
BRAHMI LETTER OLD TAMIL LLA"),
  (0x1107f, "BRAHMI NUMBER JOINER;KAITHI SIGN CANDRABINDU;KAITHI SIGN ANUSVARA
KAITHI SIGN VISARGA;KAITHI LETTER A;KAITHI LETTER AA;KAITHI LETTER I;KAITHI LETTER II
KAITHI LETTER U;KAITHI LETTER UU;KAITHI LETTER E;KAITHI LETTER AI;KAITHI LETTER O
KAITHI LETTER AU;KAITHI LETTER KA;KAITHI LETTER KHA;KAITHI LETTER GA;KAITHI LETTER GHA
KAITHI LETTER NGA;KAITHI LETTER CA;KAITHI LETTER CHA;KAITHI LETTER JA;KAITHI LETTER JHA
KAITHI LETTER NYA;KAITHI LETTER TTA;KAITHI LETTER TTHA;KAITHI LETTER DDA;KAITHI LETTER DDDHA
KAITHI LETTER DDHA;KAITHI LETTER RHA;KAITHI LETTER NNA;KAITHI LETTER TA;KAITHI LETTER THA
KAITHI LETTER DA;KAITHI LETTER DHA;KAITHI LETTER NA;KAITHI LETTER PA;KAITHI LETTER PHA
KAITHI LETTER BA;KAITHI LETTER BHA;KAITHI LETTER MA;KAITHI LETTER YA;KAITHI LETTER RA
KAITHI LETTER LA;KAITHI LETTER VA;KAITHI LETTER SHA;KAITHI LETTER SSA;KAITHI LETTER SA
KAITHI LETTER HA;KAITHI VOWEL SIGN AA;KAITHI VOWEL SIGN I;KAITHI VOWEL SIGN II
KAITHI VOWEL SIGN U;KAITHI VOWEL SIGN UU;KAITHI VOWEL SIGN E;KAITHI VOWEL SIGN AI
KAITHI VOWEL SIGN O;KAITHI VOWEL SIGN AU;KAITHI SIGN VIRAMA;KAITHI SIGN NUKTA
KAITHI ABBREVIATION SIGN;KAITHI ENUMERATION SIGN;KAITHI NUMBER SIGN;KAITHI SECTION MARK
KAITHI DOUBLE SECTION MARK;KAITHI DANDA;KAITHI DOUBLE DANDA;KAITHI VOWEL SIGN VOCALIC R"),
  (0x110cd, "KAITHI NUMBER SIGN ABOVE"),
  (0x110d0, "SORA SOMPENG LETTER SAH;SORA SOMPENG LETTER TAH;SORA SOMPENG LETTER BAH
SORA SOMPENG LETTER CAH;SORA SOMPENG LETTER DAH;SORA SOMPENG LETTER GAH;SORA SOMPENG LETTER MAH
SORA SOMPENG LETTER NGAH;SORA SOMPENG LETTER LAH;SORA SOMPENG LETTER NAH;SORA SOMPENG LETTER VAH
SORA SOMPENG LETTER PAH;SORA SOMPENG LETTER YAH;SORA SOMPENG LETTER RAH;SORA SOMPENG LETTER HAH
SORA SOMPENG LETTER KAH;SORA SOMPENG LETTER JAH;SORA SOMPENG LETTER NYAH;SORA SOMPENG LETTER AH
SORA SOMPENG LETTER EEH;SORA SOMPENG LETTER IH;SORA SOMPENG LETTER UH;SORA SOMPENG LETTER OH
SORA SOMPENG LETTER EH;SORA SOMPENG LETTER MAE"),
  (0x110f0, "SORA SOMPENG DIGIT ZERO;SORA SOMPENG DIGIT ONE;SORA SOMPENG DIGIT TWO
SORA SOMPENG DIGIT THREE;SORA SOMPENG DIGIT FOUR;SORA SOMPENG DIGIT FIVE;SORA SOMPENG DIGIT SIX
SORA SOMPENG DIGIT SEVEN;SORA SOMPENG DIGIT EIGHT;SORA SOMPENG DIGIT NINE"),
  (0x11100, "CHAKMA SIGN CANDRABINDU;CHAKMA SIGN ANUSVARA;CHAKMA SIGN VISARGA;CHAKMA LETTER AA
CHAKMA LETTER I;CHAKMA LETTER U;CHAKMA LETTER E;CHAKMA LETTER KAA;CHAKMA LETTER KHAA
CHAKMA LETTER GAA;CHAKMA LETTER GHAA;CHAKMA LETTER NGAA;CHAKMA LETTER CAA;CHAKMA LETTER CHAA
CHAKMA LETTER JAA;CHAKMA LETTER JHAA;CHAKMA LETTER NYAA;CHAKMA LETTER TTAA;CHAKMA LETTER TTHAA
CHAKMA LETTER DDAA;CHAKMA LETTER DDHAA;CHAKMA LETTER NNAA;CHAKMA LETTER TAA;CHAKMA LETTER THAA
CHAKMA LETTER DAA;CHAKMA LETTER DHAA;CHAKMA LETTER NAA;CHAKMA LETTER PAA;CHAKMA LETTER PHAA
CHAKMA LETTER BAA;CHAKMA LETTER BHAA;CHAKMA LETTER MAA;CHAKMA LETTER YYAA;CHAKMA LETTER YAA
CHAKMA LETTER RAA;CHAKMA LETTER LAA;CHAKMA LETTER WAA;CHAKMA LETTER SAA;CHAKMA LETTER HAA
CHAKMA VOWEL SIGN A;CHAKMA VOWEL SIGN I;CHAKMA VOWEL SIGN II;CHAKMA VOWEL SIGN U
CHAKMA VOWEL SIGN UU;CHAKMA VOWEL SIGN E;CHAKMA VOWEL SIGN AI;CHAKMA VOWEL SIGN O
CHAKMA VOWEL SIGN AU;CHAKMA VOWEL SIGN OI;CHAKMA O MARK;CHAKMA AU MARK;CHAKMA VIRAMA
CHAKMA MAAYYAA"),
  (0x11136, "CHAKMA DIGIT ZERO;CHAKMA DIGIT ONE;CHAKMA DIGIT TWO;CHAKMA DIGIT THREE
CHAKMA DIGIT FOUR;CHAKMA DIGIT FIVE;CHAKMA DIGIT SIX;CHAKMA DIGIT SEVEN;CHAKMA DIGIT EIGHT
CHAKMA DIGIT NINE;CHAKMA SECTION MARK;CHAKMA DANDA;CHAKMA DOUBLE DANDA;CHAKMA QUESTION MARK
CHAKMA LETTER LHAA;CHAKMA VOWEL SIGN AA;CHAKMA VOWEL SIGN EI;CHAKMA LETTER VAA"),
  (0x11150, "MAHAJANI LETTER A;MAHAJANI LETTER I;MAHAJANI LETTER U;MAHAJANI LETTER E
MAHAJANI LETTER O;MAHAJANI LETTER KA;MAHAJANI LETTER KHA;MAHAJANI LETTER GA;MAHAJANI LETTER GHA
MAHAJANI LETTER CA;MAHAJANI LETTER CHA;MAHAJANI LETTER JA;MAHAJANI LETTER JHA;MAHAJANI LETTER NYA
MAHAJANI LETTER TTA;MAHAJANI LETTER TTHA;MAHAJANI LETTER DDA;MAHAJANI LETTER DDHA
MAHAJANI LETTER NNA;MAHAJANI LETTER TA;MAHAJANI LETTER THA;MAHAJANI LETTER DA;MAHAJANI LETTER DHA
MAHAJANI LETTER NA;MAHAJANI LETTER PA;MAHAJANI LETTER PHA;MAHAJANI LETTER BA;MAHAJANI LETTER BHA
MAHAJANI LETTER MA;MAHAJANI LETTER RA;MAHAJANI LETTER LA;MAHAJANI LETTER VA;MAHAJANI LETTER SA
MAHAJANI LETTER HA;MAHAJANI LETTER RRA;MAHAJANI SIGN NUKTA;MAHAJANI ABBREVIATION SIGN
MAHAJANI SECTION MARK;MAHAJANI LIGATURE SHRI"),
  (0x11180, "SHARADA SIGN CANDRABINDU;SHARADA SIGN ANUSVARA;SHARADA SIGN VISARGA;SHARADA LETTER A
SHARADA LETTER AA;SHARADA LETTER I;SHARADA LETTER II;SHARADA LETTER U;SHARADA LETTER UU
SHARADA LETTER VOCALIC R;SHARADA LETTER VOCALIC RR;SHARADA LETTER VOCALIC L
SHARADA LETTER VOCALIC LL;SHARADA LETTER E;SHARADA LETTER AI;SHARADA LETTER O;SHARADA LETTER AU
SHARADA LETTER KA;SHARADA LETTER KHA;SHARADA LETTER GA;SHARADA LETTER GHA;SHARADA LETTER NGA
SHARADA LETTER CA;SHARADA LETTER CHA;SHARADA LETTER JA;SHARADA LETTER JHA;SHARADA LETTER NYA
SHARADA LETTER TTA;SHARADA LETTER TTHA;SHARADA LETTER DDA;SHARADA LETTER DDHA;SHARADA LETTER NNA
SHARADA LETTER TA;SHARADA LETTER THA;SHARADA LETTER DA;SHARADA LETTER DHA;SHARADA LETTER NA
SHARADA LETTER PA;SHARADA LETTER PHA;SHARADA LETTER BA;SHARADA LETTER BHA;SHARADA LETTER MA
SHARADA LETTER YA;SHARADA LETTER RA;SHARADA LETTER LA;SHARADA LETTER LLA;SHARADA LETTER VA
SHARADA LETTER SHA;SHARADA LETTER SSA;SHARADA LETTER SA;SHARADA LETTER HA;SHARADA VOWEL SIGN AA
SHARADA VOWEL SIGN I;SHARADA VOWEL SIGN II;SHARADA VOWEL SIGN U;SHARADA VOWEL SIGN UU
SHARADA VOWEL SIGN VOCALIC R;SHARADA VOWEL SIGN VOCALIC RR;SHARADA VOWEL SIGN VOCALIC L
SHARADA VOWEL SIGN VOCALIC LL;SHARADA VOWEL SIGN E;SHARADA VOWEL SIGN AI;SHARADA VOWEL SIGN O
SHARADA VOWEL SIGN AU;SHARADA SIGN VIRAMA;SHARADA SIGN AVAGRAHA;SHARADA SIGN JIHVAMULIYA
SHARADA SIGN UPADHMANIYA;SHARADA OM;SHARADA DANDA;SHARADA DOUBLE DANDA;SHARADA ABBREVIATION SIGN
SHARADA SEPARATOR;SHARADA SANDHI MARK;SHARADA SIGN NUKTA;SHARADA VOWEL MODIFIER MARK
SHARADA EXTRA SHORT VOWEL MARK;SHARADA SUTRA MARK;SHARADA VOWEL SIGN PRISHTHAMATRA E
SHARADA SIGN INVERTED CANDRABINDU;SHARADA DIGIT ZERO;SHARADA DIGIT ONE;SHARADA DIGIT TWO
SHARADA DIGIT THREE;SHARADA DIGIT FOUR;SHARADA DIGIT FIVE;SHARADA DIGIT SIX;SHARADA DIGIT SEVEN
SHARADA DIGIT EIGHT;SHARADA DIGIT NINE;SHARADA EKAM;SHARADA SIGN SIDDHAM;SHARADA HEADSTROKE
SHARADA CONTINUATION SIGN;SHARADA SECTION MARK-1;SHARADA SECTION MARK-2"),
  (0x111e1, "SINHALA ARCHAIC DIGIT ONE;SINHALA ARCHAIC DIGIT TWO;SINHALA ARCHAIC DIGIT THREE
SINHALA ARCHAIC DIGIT FOUR;SINHALA ARCHAIC DIGIT FIVE;SINHALA ARCHAIC DIGIT SIX
SINHALA ARCHAIC DIGIT SEVEN;SINHALA ARCHAIC DIGIT EIGHT;SINHALA ARCHAIC DIGIT NINE
SINHALA ARCHAIC NUMBER TEN;SINHALA ARCHAIC NUMBER TWENTY;SINHALA ARCHAIC NUMBER THIRTY
SINHALA ARCHAIC NUMBER FORTY;SINHALA ARCHAIC NUMBER FIFTY;SINHALA ARCHAIC NUMBER SIXTY
SINHALA ARCHAIC NUMBER SEVENTY;SINHALA ARCHAIC NUMBER EIGHTY;SINHALA ARCHAIC NUMBER NINETY
SINHALA ARCHAIC NUMBER ONE HUNDRED;SINHALA ARCHAIC NUMBER ONE THOUSAND"),
  (0x11200, "KHOJKI LETTER A;KHOJKI LETTER AA;KHOJKI LETTER I;KHOJKI LETTER U;KHOJKI LETTER E
KHOJKI LETTER AI;KHOJKI LETTER O;KHOJKI LETTER AU;KHOJKI LETTER KA;KHOJKI LETTER KHA
KHOJKI LETTER GA;KHOJKI LETTER GGA;KHOJKI LETTER GHA;KHOJKI LETTER NGA;KHOJKI LETTER CA
KHOJKI LETTER CHA;KHOJKI LETTER JA;KHOJKI LETTER JJA")]

end UrlRouting.Text
