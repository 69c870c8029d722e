/-!
# Names of characters from U+11213 to U+12FF2

The names of Unicode 14.  Each entry gives the first of some characters in a row and their
names, one after the other, between semicolons and line ends.
-/

namespace UrlRouting.Text

/-- The names of the characters from U+11213 to U+12FF2. -/
def namesFrom11213 : List (Nat × String) := [
  (0x11213, "KHOJKI LETTER NYA;KHOJKI LETTER TTA;KHOJKI LETTER TTHA;KHOJKI LETTER DDA
KHOJKI LETTER DDHA;KHOJKI LETTER NNA;KHOJKI LETTER TA;KHOJKI LETTER THA;KHOJKI LETTER DA
KHOJKI LETTER DDDA;KHOJKI LETTER DHA;KHOJKI LETTER NA;KHOJKI LETTER PA;KHOJKI LETTER PHA
KHOJKI LETTER BA;KHOJKI LETTER BBA;KHOJKI LETTER BHA;KHOJKI LETTER MA;KHOJKI LETTER YA
KHOJKI LETTER RA;KHOJKI LETTER LA;KHOJKI LETTER VA;KHOJKI LETTER SA;KHOJKI LETTER HA
KHOJKI LETTER LLA;KHOJKI VOWEL SIGN AA;KHOJKI VOWEL SIGN I;KHOJKI VOWEL SIGN II
KHOJKI VOWEL SIGN U;KHOJKI VOWEL SIGN E;KHOJKI VOWEL SIGN AI;KHOJKI VOWEL SIGN O
KHOJKI VOWEL SIGN AU;KHOJKI SIGN ANUSVARA;KHOJKI SIGN VIRAMA;KHOJKI SIGN NUKTA;KHOJKI SIGN SHADDA
KHOJKI DANDA;KHOJKI DOUBLE DANDA;KHOJKI WORD SEPARATOR;KHOJKI SECTION MARK
KHOJKI DOUBLE SECTION MARK;KHOJKI ABBREVIATION SIGN;KHOJKI SIGN SUKUN"),
  (0x11280, "MULTANI LETTER A;MULTANI LETTER I;MULTANI LETTER U;MULTANI LETTER E
MULTANI LETTER KA;MULTANI LETTER KHA;MULTANI LETTER GA"),
  (0x11288, "MULTANI LETTER GHA"),
  (0x1128a, "MULTANI LETTER CA;MULTANI LETTER CHA;MULTANI LETTER JA;MULTANI LETTER JJA"),
  (0x1128f, "MULTANI LETTER NYA;MULTANI LETTER TTA;MULTANI LETTER TTHA;MULTANI LETTER DDA
MULTANI LETTER DDDA;MULTANI LETTER DDHA;MULTANI LETTER NNA;MULTANI LETTER TA;MULTANI LETTER THA
MULTANI LETTER DA;MULTANI LETTER DHA;MULTANI LETTER NA;MULTANI LETTER PA;MULTANI LETTER PHA
MULTANI LETTER BA"),
  (0x1129f, "MULTANI LETTER BHA;MULTANI LETTER MA;MULTANI LETTER YA;MULTANI LETTER RA
MULTANI LETTER LA;MULTANI LETTER VA;MULTANI LETTER SA;MULTANI LETTER HA;MULTANI LETTER RRA
MULTANI LETTER RHA;MULTANI SECTION MARK"),
  (0x112b0, "KHUDAWADI LETTER A;KHUDAWADI LETTER AA;KHUDAWADI LETTER I;KHUDAWADI LETTER II
KHUDAWADI LETTER U;KHUDAWADI LETTER UU;KHUDAWADI LETTER E;KHUDAWADI LETTER AI;KHUDAWADI LETTER O
KHUDAWADI LETTER AU;KHUDAWADI LETTER KA;KHUDAWADI LETTER KHA;KHUDAWADI LETTER GA
KHUDAWADI LETTER GGA;KHUDAWADI LETTER GHA;KHUDAWADI LETTER NGA;KHUDAWADI LETTER CA
KHUDAWADI LETTER CHA;KHUDAWADI LETTER JA;KHUDAWADI LETTER JJA;KHUDAWADI LETTER JHA
KHUDAWADI LETTER NYA;KHUDAWADI LETTER TTA;KHUDAWADI LETTER TTHA;KHUDAWADI LETTER DDA
KHUDAWADI LETTER DDDA;KHUDAWADI LETTER RRA;KHUDAWADI LETTER DDHA;KHUDAWADI LETTER NNA
KHUDAWADI LETTER TA;KHUDAWADI LETTER THA;KHUDAWADI LETTER DA;KHUDAWADI LETTER DHA
KHUDAWADI LETTER NA;KHUDAWADI LETTER PA;KHUDAWADI LETTER PHA;KHUDAWADI LETTER BA
KHUDAWADI LETTER BBA;KHUDAWADI LETTER BHA;KHUDAWADI LETTER MA;KHUDAWADI LETTER YA
KHUDAWADI LETTER RA;KHUDAWADI LETTER LA;KHUDAWADI LETTER VA;KHUDAWADI LETTER SHA
KHUDAWADI LETTER SA;KHUDAWADI LETTER HA;KHUDAWADI SIGN ANUSVARA;KHUDAWADI VOWEL SIGN AA
KHUDAWADI VOWEL SIGN I;KHUDAWADI VOWEL SIGN II;KHUDAWADI VOWEL SIGN U;KHUDAWADI VOWEL SIGN UU
KHUDAWADI VOWEL SIGN E;KHUDAWADI VOWEL SIGN AI;KHUDAWADI VOWEL SIGN O;KHUDAWADI VOWEL SIGN AU
KHUDAWADI SIGN NUKTA;KHUDAWADI SIGN VIRAMA"),
  (0x112f0, "KHUDAWADI DIGIT ZERO;KHUDAWADI DIGIT ONE;KHUDAWADI DIGIT TWO;KHUDAWADI DIGIT THREE
KHUDAWADI DIGIT FOUR;KHUDAWADI DIGIT FIVE;KHUDAWADI DIGIT SIX;KHUDAWADI DIGIT SEVEN
KHUDAWADI DIGIT EIGHT;KHUDAWADI DIGIT NINE"),
  (0x11300, "GRANTHA SIGN COMBINING ANUSVARA ABOVE;GRANTHA SIGN CANDRABINDU;GRANTHA SIGN ANUSVARA
GRANTHA SIGN VISARGA"),
  (0x11305, "GRANTHA LETTER A;GRANTHA LETTER AA;GRANTHA LETTER I;GRANTHA LETTER II
GRANTHA LETTER U;GRANTHA LETTER UU;GRANTHA LETTER VOCALIC R;GRANTHA LETTER VOCALIC L"),
  (0x1130f, "GRANTHA LETTER EE;GRANTHA LETTER AI"),
  (0x11313, "GRANTHA LETTER OO;GRANTHA LETTER AU;GRANTHA LETTER KA;GRANTHA LETTER KHA
GRANTHA LETTER GA;GRANTHA LETTER GHA;GRANTHA LETTER NGA;GRANTHA LETTER CA;GRANTHA LETTER CHA
GRANTHA LETTER JA;GRANTHA LETTER JHA;GRANTHA LETTER NYA;GRANTHA LETTER TTA;GRANTHA LETTER TTHA
GRANTHA LETTER DDA;GRANTHA LETTER DDHA;GRANTHA LETTER NNA;GRANTHA LETTER TA;GRANTHA LETTER THA
GRANTHA LETTER DA;GRANTHA LETTER DHA;GRANTHA LETTER NA"),
  (0x1132a, "GRANTHA LETTER PA;GRANTHA LETTER PHA;GRANTHA LETTER BA;GRANTHA LETTER BHA
GRANTHA LETTER MA;GRANTHA LETTER YA;GRANTHA LETTER RA"),
  (0x11332, "GRANTHA LETTER LA;GRANTHA LETTER LLA"),
  (0x11335, "GRANTHA LETTER VA;GRANTHA LETTER SHA;GRANTHA LETTER SSA;GRANTHA LETTER SA
GRANTHA LETTER HA"),
  (0x1133b, "COMBINING BINDU BELOW;GRANTHA SIGN NUKTA;GRANTHA SIGN AVAGRAHA;GRANTHA VOWEL SIGN AA
GRANTHA VOWEL SIGN I;GRANTHA VOWEL SIGN II;GRANTHA VOWEL SIGN U;GRANTHA VOWEL SIGN UU
GRANTHA VOWEL SIGN VOCALIC R;GRANTHA VOWEL SIGN VOCALIC RR"),
  (0x11347, "GRANTHA VOWEL SIGN EE;GRANTHA VOWEL SIGN AI"),
  (0x1134b, "GRANTHA VOWEL SIGN OO;GRANTHA VOWEL SIGN AU;GRANTHA SIGN VIRAMA"),
  (0x11350, "GRANTHA OM"),
  (0x11357, "GRANTHA AU LENGTH MARK"),
  (0x1135d, "GRANTHA SIGN PLUTA;GRANTHA LETTER VEDIC ANUSVARA
GRANTHA LETTER VEDIC DOUBLE ANUSVARA;GRANTHA LETTER VOCALIC RR;GRANTHA LETTER VOCALIC LL
GRANTHA VOWEL SIGN VOCALIC L;GRANTHA VOWEL SIGN VOCALIC LL"),
  (0x11366, "COMBINING GRANTHA DIGIT ZERO;COMBINING GRANTHA DIGIT ONE;COMBINING GRANTHA DIGIT TWO
COMBINING GRANTHA DIGIT THREE;COMBINING GRANTHA DIGIT FOUR;COMBINING GRANTHA DIGIT FIVE
COMBINING GRANTHA DIGIT SIX"),
  (0x11370, "COMBINING GRANTHA LETTER A;COMBINING GRANTHA LETTER KA;COMBINING GRANTHA LETTER NA
COMBINING GRANTHA LETTER VI;COMBINING GRANTHA LETTER PA"),
  (0x11400, "NEWA LETTER A;NEWA LETTER AA;NEWA LETTER I;NEWA LETTER II;NEWA LETTER U
NEWA LETTER UU;NEWA LETTER VOCALIC R;NEWA LETTER VOCALIC RR;NEWA LETTER VOCALIC L
NEWA LETTER VOCALIC LL;NEWA LETTER E;NEWA LETTER AI;NEWA LETTER O;NEWA LETTER AU;NEWA LETTER KA
NEWA LETTER KHA;NEWA LETTER GA;NEWA LETTER GHA;NEWA LETTER NGA;NEWA LETTER NGHA;NEWA LETTER CA
NEWA LETTER CHA;NEWA LETTER JA;NEWA LETTER JHA;NEWA LETTER NYA;NEWA LETTER NYHA;NEWA LETTER TTA
NEWA LETTER TTHA;NEWA LETTER DDA;NEWA LETTER DDHA;NEWA LETTER NNA;NEWA LETTER TA;NEWA LETTER THA
NEWA LETTER DA;NEWA LETTER DHA;NEWA LETTER NA;NEWA LETTER NHA;NEWA LETTER PA;NEWA LETTER PHA
NEWA LETTER BA;NEWA LETTER BHA;NEWA LETTER MA;NEWA LETTER MHA;NEWA LETTER YA;NEWA LETTER RA
NEWA LETTER RHA;NEWA LETTER LA;NEWA LETTER LHA;NEWA LETTER WA;NEWA LETTER SHA;NEWA LETTER SSA
NEWA LETTER SA;NEWA LETTER HA;NEWA VOWEL SIGN AA;NEWA VOWEL SIGN I;NEWA VOWEL SIGN II
NEWA VOWEL SIGN U;NEWA VOWEL SIGN UU;NEWA VOWEL SIGN VOCALIC R;NEWA VOWEL SIGN VOCALIC RR
NEWA VOWEL SIGN VOCALIC L;NEWA VOWEL SIGN VOCALIC LL;NEWA VOWEL SIGN E;NEWA VOWEL SIGN AI
NEWA VOWEL SIGN O;NEWA VOWEL SIGN AU;NEWA SIGN VIRAMA;NEWA SIGN CANDRABINDU;NEWA SIGN ANUSVARA
NEWA SIGN VISARGA;NEWA SIGN NUKTA;NEWA SIGN AVAGRAHA;NEWA SIGN FINAL ANUSVARA;NEWA OM;NEWA SIDDHI
NEWA DANDA;NEWA DOUBLE DANDA;NEWA COMMA;NEWA GAP FILLER;NEWA ABBREVIATION SIGN;NEWA DIGIT ZERO
NEWA DIGIT ONE;NEWA DIGIT TWO;NEWA DIGIT THREE;NEWA DIGIT FOUR;NEWA DIGIT FIVE;NEWA DIGIT SIX
NEWA DIGIT SEVEN;NEWA DIGIT EIGHT;NEWA DIGIT NINE;NEWA DOUBLE COMMA;NEWA PLACEHOLDER MARK"),
  (0x1145d, "NEWA INSERTION SIGN;NEWA SANDHI MARK;NEWA LETTER VEDIC ANUSVARA
NEWA SIGN JIHVAMULIYA;NEWA SIGN UPADHMANIYA"),
  (0x11480, "TIRHUTA ANJI;TIRHUTA LETTER A;TIRHUTA LETTER AA;TIRHUTA LETTER I;TIRHUTA LETTER II
TIRHUTA LETTER U;TIRHUTA LETTER UU;TIRHUTA LETTER VOCALIC R;TIRHUTA LETTER VOCALIC RR
TIRHUTA LETTER VOCALIC L;TIRHUTA LETTER VOCALIC LL;TIRHUTA LETTER E;TIRHUTA LETTER AI
TIRHUTA LETTER O;TIRHUTA LETTER AU;TIRHUTA LETTER KA;TIRHUTA LETTER KHA;TIRHUTA LETTER GA
TIRHUTA LETTER GHA;TIRHUTA LETTER NGA;TIRHUTA LETTER CA;TIRHUTA LETTER CHA;TIRHUTA LETTER JA
TIRHUTA LETTER JHA;TIRHUTA LETTER NYA;TIRHUTA LETTER TTA;TIRHUTA LETTER TTHA;TIRHUTA LETTER DDA
TIRHUTA LETTER DDHA;TIRHUTA LETTER NNA;TIRHUTA LETTER TA;TIRHUTA LETTER THA;TIRHUTA LETTER DA
TIRHUTA LETTER DHA;TIRHUTA LETTER NA;TIRHUTA LETTER PA;TIRHUTA LETTER PHA;TIRHUTA LETTER BA
TIRHUTA LETTER BHA;TIRHUTA LETTER MA;TIRHUTA LETTER YA;TIRHUTA LETTER RA;TIRHUTA LETTER LA
TIRHUTA LETTER VA;TIRHUTA LETTER SHA;TIRHUTA LETTER SSA;TIRHUTA LETTER SA;TIRHUTA LETTER HA
TIRHUTA VOWEL SIGN AA;TIRHUTA VOWEL SIGN I;TIRHUTA VOWEL SIGN II;TIRHUTA VOWEL SIGN U
TIRHUTA VOWEL SIGN UU;TIRHUTA VOWEL SIGN VOCALIC R;TIRHUTA VOWEL SIGN VOCALIC RR
TIRHUTA VOWEL SIGN VOCALIC L;TIRHUTA VOWEL SIGN VOCALIC LL;TIRHUTA VOWEL SIGN E
TIRHUTA VOWEL SIGN SHORT E;TIRHUTA VOWEL SIGN AI;TIRHUTA VOWEL SIGN O;TIRHUTA VOWEL SIGN SHORT O
TIRHUTA VOWEL SIGN AU;TIRHUTA SIGN CANDRABINDU;TIRHUTA SIGN ANUSVARA;TIRHUTA SIGN VISARGA
TIRHUTA SIGN VIRAMA;TIRHUTA SIGN NUKTA;TIRHUTA SIGN AVAGRAHA;TIRHUTA GVANG
TIRHUTA ABBREVIATION SIGN;TIRHUTA OM"),
  (0x114d0, "TIRHUTA DIGIT ZERO;TIRHUTA DIGIT ONE;TIRHUTA DIGIT TWO;TIRHUTA DIGIT THREE
TIRHUTA DIGIT FOUR;TIRHUTA DIGIT FIVE;TIRHUTA DIGIT SIX;TIRHUTA DIGIT SEVEN;TIRHUTA DIGIT EIGHT
TIRHUTA DIGIT NINE"),
  (0x11580, "SIDDHAM LETTER A;SIDDHAM LETTER AA;SIDDHAM LETTER I;SIDDHAM LETTER II
SIDDHAM LETTER U;SIDDHAM LETTER UU;SIDDHAM LETTER VOCALIC R;SIDDHAM LETTER VOCALIC RR
SIDDHAM LETTER VOCALIC L;SIDDHAM LETTER VOCALIC LL;SIDDHAM LETTER E;SIDDHAM LETTER AI
SIDDHAM LETTER O;SIDDHAM LETTER AU;SIDDHAM LETTER KA;SIDDHAM LETTER KHA;SIDDHAM LETTER GA
SIDDHAM LETTER GHA;SIDDHAM LETTER NGA;SIDDHAM LETTER CA;SIDDHAM LETTER CHA;SIDDHAM LETTER JA
SIDDHAM LETTER JHA;SIDDHAM LETTER NYA;SIDDHAM LETTER TTA;SIDDHAM LETTER TTHA;SIDDHAM LETTER DDA
SIDDHAM LETTER DDHA;SIDDHAM LETTER NNA;SIDDHAM LETTER TA;SIDDHAM LETTER THA;SIDDHAM LETTER DA
SIDDHAM LETTER DHA;SIDDHAM LETTER NA;SIDDHAM LETTER PA;SIDDHAM LETTER PHA;SIDDHAM LETTER BA
SIDDHAM LETTER BHA;SIDDHAM LETTER MA;SIDDHAM LETTER YA;SIDDHAM LETTER RA;SIDDHAM LETTER LA
SIDDHAM LETTER VA;SIDDHAM LETTER SHA;SIDDHAM LETTER SSA;SIDDHAM LETTER SA;SIDDHAM LETTER HA
SIDDHAM VOWEL SIGN AA;SIDDHAM VOWEL SIGN I;SIDDHAM VOWEL SIGN II;SIDDHAM VOWEL SIGN U
SIDDHAM VOWEL SIGN UU;SIDDHAM VOWEL SIGN VOCALIC R;SIDDHAM VOWEL SIGN VOCALIC RR"),
  (0x115b8, "SIDDHAM VOWEL SIGN E;SIDDHAM VOWEL SIGN AI;SIDDHAM VOWEL SIGN O
SIDDHAM VOWEL SIGN AU;SIDDHAM SIGN CANDRABINDU;SIDDHAM SIGN ANUSVARA;SIDDHAM SIGN VISARGA
SIDDHAM SIGN VIRAMA;SIDDHAM SIGN NUKTA;SIDDHAM SIGN SIDDHAM;SIDDHAM DANDA;SIDDHAM DOUBLE DANDA
SIDDHAM SEPARATOR DOT;SIDDHAM SEPARATOR BAR;SIDDHAM REPETITION MARK-1;SIDDHAM REPETITION MARK-2
SIDDHAM REPETITION MARK-3;SIDDHAM END OF TEXT MARK
SIDDHAM SECTION MARK WITH TRIDENT AND U-SHAPED ORNAMENTS
SIDDHAM SECTION MARK WITH TRIDENT AND DOTTED CRESCENTS
SIDDHAM SECTION MARK WITH RAYS AND DOTTED CRESCENTS
SIDDHAM SECTION MARK WITH RAYS AND DOTTED DOUBLE CRESCENTS
SIDDHAM SECTION MARK WITH RAYS AND DOTTED TRIPLE CRESCENTS;SIDDHAM SECTION MARK DOUBLE RING
SIDDHAM SECTION MARK DOUBLE RING WITH RAYS;SIDDHAM SECTION MARK WITH DOUBLE CRESCENTS
SIDDHAM SECTION MARK WITH TRIPLE CRESCENTS;SIDDHAM SECTION MARK WITH QUADRUPLE CRESCENTS
SIDDHAM SECTION MARK WITH SEPTUPLE CRESCENTS;SIDDHAM SECTION MARK WITH CIRCLES AND RAYS
SIDDHAM SECTION MARK WITH CIRCLES AND TWO ENCLOSURES
SIDDHAM SECTION MARK WITH CIRCLES AND FOUR ENCLOSURES;SIDDHAM LETTER THREE-CIRCLE ALTERNATE I
SIDDHAM LETTER TWO-CIRCLE ALTERNATE I;SIDDHAM LETTER TWO-CIRCLE ALTERNATE II
SIDDHAM LETTER ALTERNATE U;SIDDHAM VOWEL SIGN ALTERNATE U;SIDDHAM VOWEL SIGN ALTERNATE UU"),
  (0x11600, "MODI LETTER A;MODI LETTER AA;MODI LETTER I;MODI LETTER II;MODI LETTER U
MODI LETTER UU;MODI LETTER VOCALIC R;MODI LETTER VOCALIC RR;MODI LETTER VOCALIC L
MODI LETTER VOCALIC LL;MODI LETTER E;MODI LETTER AI;MODI LETTER O;MODI LETTER AU;MODI LETTER KA
MODI LETTER KHA;MODI LETTER GA;MODI LETTER GHA;MODI LETTER NGA;MODI LETTER CA;MODI LETTER CHA
MODI LETTER JA;MODI LETTER JHA;MODI LETTER NYA;MODI LETTER TTA;MODI LETTER TTHA;MODI LETTER DDA
MODI LETTER DDHA;MODI LETTER NNA;MODI LETTER TA;MODI LETTER THA;MODI LETTER DA;MODI LETTER DHA
MODI LETTER NA;MODI LETTER PA;MODI LETTER PHA;MODI LETTER BA;MODI LETTER BHA;MODI LETTER MA
MODI LETTER YA;MODI LETTER RA;MODI LETTER LA;MODI LETTER VA;MODI LETTER SHA;MODI LETTER SSA
MODI LETTER SA;MODI LETTER HA;MODI LETTER LLA;MODI VOWEL SIGN AA;MODI VOWEL SIGN I
MODI VOWEL SIGN II;MODI VOWEL SIGN U;MODI VOWEL SIGN UU;MODI VOWEL SIGN VOCALIC R
MODI VOWEL SIGN VOCALIC RR;MODI VOWEL SIGN VOCALIC L;MODI VOWEL SIGN VOCALIC LL;MODI VOWEL SIGN E
MODI VOWEL SIGN AI;MODI VOWEL SIGN O;MODI VOWEL SIGN AU;MODI SIGN ANUSVARA;MODI SIGN VISARGA
MODI SIGN VIRAMA;MODI SIGN ARDHACANDRA;MODI DANDA;MODI DOUBLE DANDA;MODI ABBREVIATION SIGN
MODI SIGN HUVA"),
  (0x11650, "MODI DIGIT ZERO;MODI DIGIT ONE;MODI DIGIT TWO;MODI DIGIT THREE;MODI DIGIT FOUR
MODI DIGIT FIVE;MODI DIGIT SIX;MODI DIGIT SEVEN;MODI DIGIT EIGHT;MODI DIGIT NINE"),
  (0x11660, "MONGOLIAN BIRGA WITH ORNAMENT;MONGOLIAN ROTATED BIRGA
MONGOLIAN DOUBLE BIRGA WITH ORNAMENT;MONGOLIAN TRIPLE BIRGA WITH ORNAMENT
MONGOLIAN BIRGA WITH DOUBLE ORNAMENT;MONGOLIAN ROTATED BIRGA WITH ORNAMENT
MONGOLIAN ROTATED BIRGA WITH DOUBLE ORNAMENT;MONGOLIAN INVERTED BIRGA
MONGOLIAN INVERTED BIRGA WITH DOUBLE ORNAMENT;MONGOLIAN SWIRL BIRGA
MONGOLIAN SWIRL BIRGA WITH ORNAMENT;MONGOLIAN SWIRL BIRGA WITH DOUBLE ORNAMENT
MONGOLIAN TURNED SWIRL BIRGA WITH DOUBLE ORNAMENT"),
  (0x11680, "TAKRI LETTER A;TAKRI LETTER AA;TAKRI LETTER I;TAKRI LETTER II;TAKRI LETTER U
TAKRI LETTER UU;TAKRI LETTER E;TAKRI LETTER AI;TAKRI LETTER O;TAKRI LETTER AU;TAKRI LETTER KA
TAKRI LETTER KHA;TAKRI LETTER GA;TAKRI LETTER GHA;TAKRI LETTER NGA;TAKRI LETTER CA
TAKRI LETTER CHA;TAKRI LETTER JA;TAKRI LETTER JHA;TAKRI LETTER NYA;TAKRI LETTER TTA
TAKRI LETTER TTHA;TAKRI LETTER DDA;TAKRI LETTER DDHA;TAKRI LETTER NNA;TAKRI LETTER TA
TAKRI LETTER THA;TAKRI LETTER DA;TAKRI LETTER DHA;TAKRI LETTER NA;TAKRI LETTER PA
TAKRI LETTER PHA;TAKRI LETTER BA;TAKRI LETTER BHA;TAKRI LETTER MA;TAKRI LETTER YA;TAKRI LETTER RA
TAKRI LETTER LA;TAKRI LETTER VA;TAKRI LETTER SHA;TAKRI LETTER SA;TAKRI LETTER HA;TAKRI LETTER RRA
TAKRI SIGN ANUSVARA;TAKRI SIGN VISARGA;TAKRI VOWEL SIGN AA;TAKRI VOWEL SIGN I;TAKRI VOWEL SIGN II
TAKRI VOWEL SIGN U;TAKRI VOWEL SIGN UU;TAKRI VOWEL SIGN E;TAKRI VOWEL SIGN AI;TAKRI VOWEL SIGN O
TAKRI VOWEL SIGN AU;TAKRI SIGN VIRAMA;TAKRI SIGN NUKTA;TAKRI LETTER ARCHAIC KHA
TAKRI ABBREVIATION SIGN"),
  (0x116c0, "TAKRI DIGIT ZERO;TAKRI DIGIT ONE;TAKRI DIGIT TWO;TAKRI DIGIT THREE;TAKRI DIGIT FOUR
TAKRI DIGIT FIVE;TAKRI DIGIT SIX;TAKRI DIGIT SEVEN;TAKRI DIGIT EIGHT;TAKRI DIGIT NINE"),
  (0x11700, "AHOM LETTER KA;AHOM LETTER KHA;AHOM LETTER NGA;AHOM LETTER NA;AHOM LETTER TA
AHOM LETTER ALTERNATE TA;AHOM LETTER PA;AHOM LETTER PHA;AHOM LETTER BA;AHOM LETTER MA
AHOM LETTER JA;AHOM LETTER CHA;AHOM LETTER THA;AHOM LETTER RA;AHOM LETTER LA;AHOM LETTER SA
AHOM LETTER NYA;AHOM LETTER HA;AHOM LETTER A;AHOM LETTER DA;AHOM LETTER DHA;AHOM LETTER GA
AHOM LETTER ALTERNATE GA;AHOM LETTER GHA;AHOM LETTER BHA;AHOM LETTER JHA;AHOM LETTER ALTERNATE BA"),
  (0x1171d, "AHOM CONSONANT SIGN MEDIAL LA;AHOM CONSONANT SIGN MEDIAL RA
AHOM CONSONANT SIGN MEDIAL LIGATING RA;AHOM VOWEL SIGN A;AHOM VOWEL SIGN AA;AHOM VOWEL SIGN I
AHOM VOWEL SIGN II;AHOM VOWEL SIGN U;AHOM VOWEL SIGN UU;AHOM VOWEL SIGN E;AHOM VOWEL SIGN AW
AHOM VOWEL SIGN O;AHOM VOWEL SIGN AI;AHOM VOWEL SIGN AM;AHOM SIGN KILLER"),
  (0x11730, "AHOM DIGIT ZERO;AHOM DIGIT ONE;AHOM DIGIT TWO;AHOM DIGIT THREE;AHOM DIGIT FOUR
AHOM DIGIT FIVE;AHOM DIGIT SIX;AHOM DIGIT SEVEN;AHOM DIGIT EIGHT;AHOM DIGIT NINE;AHOM NUMBER TEN
AHOM NUMBER TWENTY;AHOM SIGN SMALL SECTION;AHOM SIGN SECTION;AHOM SIGN RULAI;AHOM SYMBOL VI
AHOM LETTER CA;AHOM LETTER TTA;AHOM LETTER TTHA;AHOM LETTER DDA;AHOM LETTER DDHA;AHOM LETTER NNA
AHOM LETTER LLA"),
  (0x11800, "DOGRA LETTER A;DOGRA LETTER AA;DOGRA LETTER I;DOGRA LETTER II;DOGRA LETTER U
DOGRA LETTER UU;DOGRA LETTER E;DOGRA LETTER AI;DOGRA LETTER O;DOGRA LETTER AU;DOGRA LETTER KA
DOGRA LETTER KHA;DOGRA LETTER GA;DOGRA LETTER GHA;DOGRA LETTER NGA;DOGRA LETTER CA
DOGRA LETTER CHA;DOGRA LETTER JA;DOGRA LETTER JHA;DOGRA LETTER NYA;DOGRA LETTER TTA
DOGRA LETTER TTHA;DOGRA LETTER DDA;DOGRA LETTER DDHA;DOGRA LETTER NNA;DOGRA LETTER TA
DOGRA LETTER THA;DOGRA LETTER DA;DOGRA LETTER DHA;DOGRA LETTER NA;DOGRA LETTER PA
DOGRA LETTER PHA;DOGRA LETTER BA;DOGRA LETTER BHA;DOGRA LETTER MA;DOGRA LETTER YA;DOGRA LETTER RA
DOGRA LETTER LA;DOGRA LETTER VA;DOGRA LETTER SHA;DOGRA LETTER SSA;DOGRA LETTER SA;DOGRA LETTER HA
DOGRA LETTER RRA;DOGRA VOWEL SIGN AA;DOGRA VOWEL SIGN I;DOGRA VOWEL SIGN II;DOGRA VOWEL SIGN U
DOGRA VOWEL SIGN UU;DOGRA VOWEL SIGN VOCALIC R;DOGRA VOWEL SIGN VOCALIC RR;DOGRA VOWEL SIGN E
DOGRA VOWEL SIGN AI;DOGRA VOWEL SIGN O;DOGRA VOWEL SIGN AU;DOGRA SIGN ANUSVARA;DOGRA SIGN VISARGA
DOGRA SIGN VIRAMA;DOGRA SIGN NUKTA;DOGRA ABBREVIATION SIGN"),
  (0x118a0, "WARANG CITI CAPITAL LETTER NGAA;WARANG CITI CAPITAL LETTER A
WARANG CITI CAPITAL LETTER WI;WARANG CITI CAPITAL LETTER YU;WARANG CITI CAPITAL LETTER YA
WARANG CITI CAPITAL LETTER YO;WARANG CITI CAPITAL LETTER II;WARANG CITI CAPITAL LETTER UU
WARANG CITI CAPITAL LETTER E;WARANG CITI CAPITAL LETTER O;WARANG CITI CAPITAL LETTER ANG
WARANG CITI CAPITAL LETTER GA;WARANG CITI CAPITAL LETTER KO;WARANG CITI CAPITAL LETTER ENY
WARANG CITI CAPITAL LETTER YUJ;WARANG CITI CAPITAL LETTER UC;WARANG CITI CAPITAL LETTER ENN
WARANG CITI CAPITAL LETTER ODD;WARANG CITI CAPITAL LETTER TTE;WARANG CITI CAPITAL LETTER NUNG
WARANG CITI CAPITAL LETTER DA;WARANG CITI CAPITAL LETTER AT;WARANG CITI CAPITAL LETTER AM
WARANG CITI CAPITAL LETTER BU;WARANG CITI CAPITAL LETTER PU;WARANG CITI CAPITAL LETTER HIYO
WARANG CITI CAPITAL LETTER HOLO;WARANG CITI CAPITAL LETTER HORR;WARANG CITI CAPITAL LETTER HAR
WARANG CITI CAPITAL LETTER SSUU;WARANG CITI CAPITAL LETTER SII;WARANG CITI CAPITAL LETTER VIYO
WARANG CITI SMALL LETTER NGAA;WARANG CITI SMALL LETTER A;WARANG CITI SMALL LETTER WI
WARANG CITI SMALL LETTER YU;WARANG CITI SMALL LETTER YA;WARANG CITI SMALL LETTER YO
WARANG CITI SMALL LETTER II;WARANG CITI SMALL LETTER UU;WARANG CITI SMALL LETTER E
WARANG CITI SMALL LETTER O;WARANG CITI SMALL LETTER ANG;WARANG CITI SMALL LETTER GA
WARANG CITI SMALL LETTER KO;WARANG CITI SMALL LETTER ENY;WARANG CITI SMALL LETTER YUJ
WARANG CITI SMALL LETTER UC;WARANG CITI SMALL LETTER ENN;WARANG CITI SMALL LETTER ODD
WARANG CITI SMALL LETTER TTE;WARANG CITI SMALL LETTER NUNG;WARANG CITI SMALL LETTER DA
WARANG CITI SMALL LETTER AT;WARANG CITI SMALL LETTER AM;WARANG CITI SMALL LETTER BU
WARANG CITI SMALL LETTER PU;WARANG CITI SMALL LETTER HIYO;WARANG CITI SMALL LETTER HOLO
WARANG CITI SMALL LETTER HORR;WARANG CITI SMALL LETTER HAR;WARANG CITI SMALL LETTER SSUU
WARANG CITI SMALL LETTER SII;WARANG CITI SMALL LETTER VIYO;WARANG CITI DIGIT ZERO
WARANG CITI DIGIT ONE;WARANG CITI DIGIT TWO;WARANG CITI DIGIT THREE;WARANG CITI DIGIT FOUR
WARANG CITI DIGIT FIVE;WARANG CITI DIGIT SIX;WARANG CITI DIGIT SEVEN;WARANG CITI DIGIT EIGHT
WARANG CITI DIGIT NINE;WARANG CITI NUMBER TEN;WARANG CITI NUMBER TWENTY;WARANG CITI NUMBER THIRTY
WARANG CITI NUMBER FORTY;WARANG CITI NUMBER FIFTY;WARANG CITI NUMBER SIXTY
WARANG CITI NUMBER SEVENTY;WARANG CITI NUMBER EIGHTY;WARANG CITI NUMBER NINETY"),
  (0x118ff, "WARANG CITI OM;DIVES AKURU LETTER A;DIVES AKURU LETTER AA;DIVES AKURU LETTER I
DIVES AKURU LETTER II;DIVES AKURU LETTER U;DIVES AKURU LETTER UU;DIVES AKURU LETTER E"),
  (0x11909, "DIVES AKURU LETTER O"),
  (0x1190c, "DIVES AKURU LETTER KA;DIVES AKURU LETTER KHA;DIVES AKURU LETTER GA
DIVES AKURU LETTER GHA;DIVES AKURU LETTER NGA;DIVES AKURU LETTER CA;DIVES AKURU LETTER CHA
DIVES AKURU LETTER JA"),
  (0x11915, "DIVES AKURU LETTER NYA;DIVES AKURU LETTER TTA"),
  (0x11918, "DIVES AKURU LETTER DDA;DIVES AKURU LETTER DDHA;DIVES AKURU LETTER NNA
DIVES AKURU LETTER TA;DIVES AKURU LETTER THA;DIVES AKURU LETTER DA;DIVES AKURU LETTER DHA
DIVES AKURU LETTER NA;DIVES AKURU LETTER PA;DIVES AKURU LETTER PHA;DIVES AKURU LETTER BA
DIVES AKURU LETTER BHA;DIVES AKURU LETTER MA;DIVES AKURU LETTER YA;DIVES AKURU LETTER YYA
DIVES AKURU LETTER RA;DIVES AKURU LETTER LA;DIVES AKURU LETTER VA;DIVES AKURU LETTER SHA
DIVES AKURU LETTER SSA;DIVES AKURU LETTER SA;DIVES AKURU LETTER HA;DIVES AKURU LETTER LLA
DIVES AKURU LETTER ZA;DIVES AKURU VOWEL SIGN AA;DIVES AKURU VOWEL SIGN I
DIVES AKURU VOWEL SIGN II;DIVES AKURU VOWEL SIGN U;DIVES AKURU VOWEL SIGN UU
DIVES AKURU VOWEL SIGN E"),
  (0x11937, "DIVES AKURU VOWEL SIGN AI;DIVES AKURU VOWEL SIGN O"),
  (0x1193b, "DIVES AKURU SIGN ANUSVARA;DIVES AKURU SIGN CANDRABINDU;DIVES AKURU SIGN HALANTA
DIVES AKURU VIRAMA;DIVES AKURU PREFIXED NASAL SIGN;DIVES AKURU MEDIAL YA;DIVES AKURU INITIAL RA
DIVES AKURU MEDIAL RA;DIVES AKURU SIGN NUKTA;DIVES AKURU DOUBLE DANDA;DIVES AKURU GAP FILLER
DIVES AKURU END OF TEXT MARK"),
  (0x11950, "DIVES AKURU DIGIT ZERO;DIVES AKURU DIGIT ONE;DIVES AKURU DIGIT TWO
DIVES AKURU DIGIT THREE;DIVES AKURU DIGIT FOUR;DIVES AKURU DIGIT FIVE;DIVES AKURU DIGIT SIX
DIVES AKURU DIGIT SEVEN;DIVES AKURU DIGIT EIGHT;DIVES AKURU DIGIT NINE"),
  (0x119a0, "NANDINAGARI LETTER A;NANDINAGARI LETTER AA;NANDINAGARI LETTER I
NANDINAGARI LETTER II;NANDINAGARI LETTER U;NANDINAGARI LETTER UU;NANDINAGARI LETTER VOCALIC R
NANDINAGARI LETTER VOCALIC RR"),
  (0x119aa, "NANDINAGARI LETTER E;NANDINAGARI LETTER AI;NANDINAGARI LETTER O
NANDINAGARI LETTER AU;NANDINAGARI LETTER KA;NANDINAGARI LETTER KHA;NANDINAGARI LETTER GA
NANDINAGARI LETTER GHA;NANDINAGARI LETTER NGA;NANDINAGARI LETTER CA;NANDINAGARI LETTER CHA
NANDINAGARI LETTER JA;NANDINAGARI LETTER JHA;NANDINAGARI LETTER NYA;NANDINAGARI LETTER TTA
NANDINAGARI LETTER TTHA;NANDINAGARI LETTER DDA;NANDINAGARI LETTER DDHA;NANDINAGARI LETTER NNA
NANDINAGARI LETTER TA;NANDINAGARI LETTER THA;NANDINAGARI LETTER DA;NANDINAGARI LETTER DHA
NANDINAGARI LETTER NA;NANDINAGARI LETTER PA;NANDINAGARI LETTER PHA;NANDINAGARI LETTER BA
NANDINAGARI LETTER BHA;NANDINAGARI LETTER MA;NANDINAGARI LETTER YA;NANDINAGARI LETTER RA
NANDINAGARI LETTER LA;NANDINAGARI LETTER VA;NANDINAGARI LETTER SHA;NANDINAGARI LETTER SSA
NANDINAGARI LETTER SA;NANDINAGARI LETTER HA;NANDINAGARI LETTER LLA;NANDINAGARI LETTER RRA
NANDINAGARI VOWEL SIGN AA;NANDINAGARI VOWEL SIGN I;NANDINAGARI VOWEL SIGN II
NANDINAGARI VOWEL SIGN U;NANDINAGARI VOWEL SIGN UU;NANDINAGARI VOWEL SIGN VOCALIC R
NANDINAGARI VOWEL SIGN VOCALIC RR"),
  (0x119da, "NANDINAGARI VOWEL SIGN E;NANDINAGARI VOWEL SIGN AI;NANDINAGARI VOWEL SIGN O
NANDINAGARI VOWEL SIGN AU;NANDINAGARI SIGN ANUSVARA;NANDINAGARI SIGN VISARGA
NANDINAGARI SIGN VIRAMA;NANDINAGARI SIGN AVAGRAHA;NANDINAGARI SIGN SIDDHAM;NANDINAGARI HEADSTROKE
NANDINAGARI VOWEL SIGN PRISHTHAMATRA E"),
  (0x11a00, "ZANABAZAR SQUARE LETTER A;ZANABAZAR SQUARE VOWEL SIGN I
ZANABAZAR SQUARE VOWEL SIGN UE;ZANABAZAR SQUARE VOWEL SIGN U;ZANABAZAR SQUARE VOWEL SIGN E
ZANABAZAR SQUARE VOWEL SIGN OE;ZANABAZAR SQUARE VOWEL SIGN O;ZANABAZAR SQUARE VOWEL SIGN AI
ZANABAZAR SQUARE VOWEL SIGN AU;ZANABAZAR SQUARE VOWEL SIGN REVERSED I
ZANABAZAR SQUARE VOWEL LENGTH MARK;ZANABAZAR SQUARE LETTER KA;ZANABAZAR SQUARE LETTER KHA
ZANABAZAR SQUARE LETTER GA;ZANABAZAR SQUARE LETTER GHA;ZANABAZAR SQUARE LETTER NGA
ZANABAZAR SQUARE LETTER CA;ZANABAZAR SQUARE LETTER CHA;ZANABAZAR SQUARE LETTER JA
ZANABAZAR SQUARE LETTER NYA;ZANABAZAR SQUARE LETTER TTA;ZANABAZAR SQUARE LETTER TTHA
ZANABAZAR SQUARE LETTER DDA;ZANABAZAR SQUARE LETTER DDHA;ZANABAZAR SQUARE LETTER NNA
ZANABAZAR SQUARE LETTER TA;ZANABAZAR SQUARE LETTER THA;ZANABAZAR SQUARE LETTER DA
ZANABAZAR SQUARE LETTER DHA;ZANABAZAR SQUARE LETTER NA;ZANABAZAR SQUARE LETTER PA
ZANABAZAR SQUARE LETTER PHA;ZANABAZAR SQUARE LETTER BA;ZANABAZAR SQUARE LETTER BHA
ZANABAZAR SQUARE LETTER MA;ZANABAZAR SQUARE LETTER TSA;ZANABAZAR SQUARE LETTER TSHA
ZANABAZAR SQUARE LETTER DZA;ZANABAZAR SQUARE LETTER DZHA;ZANABAZAR SQUARE LETTER ZHA
ZANABAZAR SQUARE LETTER ZA;ZANABAZAR SQUARE LETTER -A;ZANABAZAR SQUARE LETTER YA
ZANABAZAR SQUARE LETTER RA;ZANABAZAR SQUARE LETTER LA;ZANABAZAR SQUARE LETTER VA
ZANABAZAR SQUARE LETTER SHA;ZANABAZAR SQUARE LETTER SSA;ZANABAZAR SQUARE LETTER SA
ZANABAZAR SQUARE LETTER HA;ZANABAZAR SQUARE LETTER KSSA;ZANABAZAR SQUARE FINAL CONSONANT MARK
ZANABAZAR SQUARE SIGN VIRAMA;ZANABAZAR SQUARE SIGN CANDRABINDU
ZANABAZAR SQUARE SIGN CANDRABINDU WITH ORNAMENT;ZANABAZAR SQUARE SIGN CANDRA WITH ORNAMENT
ZANABAZAR SQUARE SIGN ANUSVARA;ZANABAZAR SQUARE SIGN VISARGA
ZANABAZAR SQUARE CLUSTER-INITIAL LETTER RA;ZANABAZAR SQUARE CLUSTER-FINAL LETTER YA
ZANABAZAR SQUARE CLUSTER-FINAL LETTER RA;ZANABAZAR SQUARE CLUSTER-FINAL LETTER LA
ZANABAZAR SQUARE CLUSTER-FINAL LETTER VA;ZANABAZAR SQUARE INITIAL HEAD MARK
ZANABAZAR SQUARE CLOSING HEAD MARK;ZANABAZAR SQUARE MARK TSHEG;ZANABAZAR SQUARE MARK SHAD
ZANABAZAR SQUARE MARK DOUBLE SHAD;ZANABAZAR SQUARE MARK LONG TSHEG
ZANABAZAR SQUARE INITIAL DOUBLE-LINED HEAD MARK;ZANABAZAR SQUARE CLOSING DOUBLE-LINED HEAD MARK
ZANABAZAR SQUARE SUBJOINER"),
  (0x11a50, "SOYOMBO LETTER A;SOYOMBO VOWEL SIGN I;SOYOMBO VOWEL SIGN UE;SOYOMBO VOWEL SIGN U
SOYOMBO VOWEL SIGN E;SOYOMBO VOWEL SIGN O;SOYOMBO VOWEL SIGN OE;SOYOMBO VOWEL SIGN AI
SOYOMBO VOWEL SIGN AU;SOYOMBO VOWEL SIGN VOCALIC R;SOYOMBO VOWEL SIGN VOCALIC L
SOYOMBO VOWEL LENGTH MARK;SOYOMBO LETTER KA;SOYOMBO LETTER KHA;SOYOMBO LETTER GA
SOYOMBO LETTER GHA;SOYOMBO LETTER NGA;SOYOMBO LETTER CA;SOYOMBO LETTER CHA;SOYOMBO LETTER JA
SOYOMBO LETTER JHA;SOYOMBO LETTER NYA;SOYOMBO LETTER TTA;SOYOMBO LETTER TTHA;SOYOMBO LETTER DDA
SOYOMBO LETTER DDHA;SOYOMBO LETTER NNA;SOYOMBO LETTER TA;SOYOMBO LETTER THA;SOYOMBO LETTER DA
SOYOMBO LETTER DHA;SOYOMBO LETTER NA;SOYOMBO LETTER PA;SOYOMBO LETTER PHA;SOYOMBO LETTER BA
SOYOMBO LETTER BHA;SOYOMBO LETTER MA;SOYOMBO LETTER TSA;SOYOMBO LETTER TSHA;SOYOMBO LETTER DZA
SOYOMBO LETTER ZHA;SOYOMBO LETTER ZA;SOYOMBO LETTER -A;SOYOMBO LETTER YA;SOYOMBO LETTER RA
SOYOMBO LETTER LA;SOYOMBO LETTER VA;SOYOMBO LETTER SHA;SOYOMBO LETTER SSA;SOYOMBO LETTER SA
SOYOMBO LETTER HA;SOYOMBO LETTER KSSA;SOYOMBO SIGN JIHVAMULIYA;SOYOMBO SIGN UPADHMANIYA
SOYOMBO CLUSTER-INITIAL LETTER RA;SOYOMBO CLUSTER-INITIAL LETTER LA
SOYOMBO CLUSTER-INITIAL LETTER SHA;SOYOMBO CLUSTER-INITIAL LETTER SA
SOYOMBO FINAL CONSONANT SIGN G;SOYOMBO FINAL CONSONANT SIGN K;SOYOMBO FINAL CONSONANT SIGN NG
SOYOMBO FINAL CONSONANT SIGN D;SOYOMBO FINAL CONSONANT SIGN N;SOYOMBO FINAL CONSONANT SIGN B
SOYOMBO FINAL CONSONANT SIGN M;SOYOMBO FINAL CONSONANT SIGN R;SOYOMBO FINAL CONSONANT SIGN L
SOYOMBO FINAL CONSONANT SIGN SH;SOYOMBO FINAL CONSONANT SIGN S;SOYOMBO FINAL CONSONANT SIGN -A
SOYOMBO SIGN ANUSVARA;SOYOMBO SIGN VISARGA;SOYOMBO GEMINATION MARK;SOYOMBO SUBJOINER
SOYOMBO MARK TSHEG;SOYOMBO MARK SHAD;SOYOMBO MARK DOUBLE SHAD;SOYOMBO MARK PLUTA
SOYOMBO HEAD MARK WITH MOON AND SUN AND TRIPLE FLAME
SOYOMBO HEAD MARK WITH MOON AND SUN AND FLAME;SOYOMBO HEAD MARK WITH MOON AND SUN
SOYOMBO TERMINAL MARK-1;SOYOMBO TERMINAL MARK-2"),
  (0x11ab0, "CANADIAN SYLLABICS NATTILIK HI;CANADIAN SYLLABICS NATTILIK HII
CANADIAN SYLLABICS NATTILIK HO;CANADIAN SYLLABICS NATTILIK HOO;CANADIAN SYLLABICS NATTILIK HA
CANADIAN SYLLABICS NATTILIK HAA;CANADIAN SYLLABICS NATTILIK SHRI
CANADIAN SYLLABICS NATTILIK SHRII;CANADIAN SYLLABICS NATTILIK SHRO
CANADIAN SYLLABICS NATTILIK SHROO;CANADIAN SYLLABICS NATTILIK SHRA
CANADIAN SYLLABICS NATTILIK SHRAA;CANADIAN SYLLABICS SPE;CANADIAN SYLLABICS SPI
CANADIAN SYLLABICS SPO;CANADIAN SYLLABICS SPA;PAU CIN HAU LETTER PA;PAU CIN HAU LETTER KA
PAU CIN HAU LETTER LA;PAU CIN HAU LETTER MA;PAU CIN HAU LETTER DA;PAU CIN HAU LETTER ZA
PAU CIN HAU LETTER VA;PAU CIN HAU LETTER NGA;PAU CIN HAU LETTER HA;PAU CIN HAU LETTER GA
PAU CIN HAU LETTER KHA;PAU CIN HAU LETTER SA;PAU CIN HAU LETTER BA;PAU CIN HAU LETTER CA
PAU CIN HAU LETTER TA;PAU CIN HAU LETTER THA;PAU CIN HAU LETTER NA;PAU CIN HAU LETTER PHA
PAU CIN HAU LETTER RA;PAU CIN HAU LETTER FA;PAU CIN HAU LETTER CHA;PAU CIN HAU LETTER A
PAU CIN HAU LETTER E;PAU CIN HAU LETTER I;PAU CIN HAU LETTER O;PAU CIN HAU LETTER U
PAU CIN HAU LETTER UA;PAU CIN HAU LETTER IA;PAU CIN HAU LETTER FINAL P;PAU CIN HAU LETTER FINAL K
PAU CIN HAU LETTER FINAL T;PAU CIN HAU LETTER FINAL M;PAU CIN HAU LETTER FINAL N
PAU CIN HAU LETTER FINAL L;PAU CIN HAU LETTER FINAL W;PAU CIN HAU LETTER FINAL NG
PAU CIN HAU LETTER FINAL Y;PAU CIN HAU RISING TONE LONG;PAU CIN HAU RISING TONE
PAU CIN HAU SANDHI GLOTTAL STOP;PAU CIN HAU RISING TONE LONG FINAL;PAU CIN HAU RISING TONE FINAL
PAU CIN HAU SANDHI GLOTTAL STOP FINAL;PAU CIN HAU SANDHI TONE LONG;PAU CIN HAU SANDHI TONE
PAU CIN HAU SANDHI TONE LONG FINAL;PAU CIN HAU SANDHI TONE FINAL;PAU CIN HAU MID-LEVEL TONE
PAU CIN HAU GLOTTAL STOP VARIANT;PAU CIN HAU MID-LEVEL TONE LONG FINAL
PAU CIN HAU MID-LEVEL TONE FINAL;PAU CIN HAU LOW-FALLING TONE LONG;PAU CIN HAU LOW-FALLING TONE
PAU CIN HAU GLOTTAL STOP;PAU CIN HAU LOW-FALLING TONE LONG FINAL
PAU CIN HAU LOW-FALLING TONE FINAL;PAU CIN HAU GLOTTAL STOP FINAL"),
  (0x11c00, "BHAIKSUKI LETTER A;BHAIKSUKI LETTER AA;BHAIKSUKI LETTER I;BHAIKSUKI LETTER II
BHAIKSUKI LETTER U;BHAIKSUKI LETTER UU;BHAIKSUKI LETTER VOCALIC R;BHAIKSUKI LETTER VOCALIC RR
BHAIKSUKI LETTER VOCALIC L"),
  (0x11c0a, "BHAIKSUKI LETTER E;BHAIKSUKI LETTER AI;BHAIKSUKI LETTER O;BHAIKSUKI LETTER AU
BHAIKSUKI LETTER KA;BHAIKSUKI LETTER KHA;BHAIKSUKI LETTER GA;BHAIKSUKI LETTER GHA
BHAIKSUKI LETTER NGA;BHAIKSUKI LETTER CA;BHAIKSUKI LETTER CHA;BHAIKSUKI LETTER JA
BHAIKSUKI LETTER JHA;BHAIKSUKI LETTER NYA;BHAIKSUKI LETTER TTA;BHAIKSUKI LETTER TTHA
BHAIKSUKI LETTER DDA;BHAIKSUKI LETTER DDHA;BHAIKSUKI LETTER NNA;BHAIKSUKI LETTER TA
BHAIKSUKI LETTER THA;BHAIKSUKI LETTER DA;BHAIKSUKI LETTER DHA;BHAIKSUKI LETTER NA
BHAIKSUKI LETTER PA;BHAIKSUKI LETTER PHA;BHAIKSUKI LETTER BA;BHAIKSUKI LETTER BHA
BHAIKSUKI LETTER MA;BHAIKSUKI LETTER YA;BHAIKSUKI LETTER RA;BHAIKSUKI LETTER LA
BHAIKSUKI LETTER VA;BHAIKSUKI LETTER SHA;BHAIKSUKI LETTER SSA;BHAIKSUKI LETTER SA
BHAIKSUKI LETTER HA;BHAIKSUKI VOWEL SIGN AA;BHAIKSUKI VOWEL SIGN I;BHAIKSUKI VOWEL SIGN II
BHAIKSUKI VOWEL SIGN U;BHAIKSUKI VOWEL SIGN UU;BHAIKSUKI VOWEL SIGN VOCALIC R
BHAIKSUKI VOWEL SIGN VOCALIC RR;BHAIKSUKI VOWEL SIGN VOCALIC L"),
  (0x11c38, "BHAIKSUKI VOWEL SIGN E;BHAIKSUKI VOWEL SIGN AI;BHAIKSUKI VOWEL SIGN O
BHAIKSUKI VOWEL SIGN AU;BHAIKSUKI SIGN CANDRABINDU;BHAIKSUKI SIGN ANUSVARA;BHAIKSUKI SIGN VISARGA
BHAIKSUKI SIGN VIRAMA;BHAIKSUKI SIGN AVAGRAHA;BHAIKSUKI DANDA;BHAIKSUKI DOUBLE DANDA
BHAIKSUKI WORD SEPARATOR;BHAIKSUKI GAP FILLER-1;BHAIKSUKI GAP FILLER-2"),
  (0x11c50, "BHAIKSUKI DIGIT ZERO;BHAIKSUKI DIGIT ONE;BHAIKSUKI DIGIT TWO;BHAIKSUKI DIGIT THREE
BHAIKSUKI DIGIT FOUR;BHAIKSUKI DIGIT FIVE;BHAIKSUKI DIGIT SIX;BHAIKSUKI DIGIT SEVEN
BHAIKSUKI DIGIT EIGHT;BHAIKSUKI DIGIT NINE;BHAIKSUKI NUMBER ONE;BHAIKSUKI NUMBER TWO
BHAIKSUKI NUMBER THREE;BHAIKSUKI NUMBER FOUR;BHAIKSUKI NUMBER FIVE;BHAIKSUKI NUMBER SIX
BHAIKSUKI NUMBER SEVEN;BHAIKSUKI NUMBER EIGHT;BHAIKSUKI NUMBER NINE;BHAIKSUKI NUMBER TEN
BHAIKSUKI NUMBER TWENTY;BHAIKSUKI NUMBER THIRTY;BHAIKSUKI NUMBER FORTY;BHAIKSUKI NUMBER FIFTY
BHAIKSUKI NUMBER SIXTY;BHAIKSUKI NUMBER SEVENTY;BHAIKSUKI NUMBER EIGHTY;BHAIKSUKI NUMBER NINETY
BHAIKSUKI HUNDREDS UNIT MARK"),
  (0x11c70, "MARCHEN HEAD MARK;MARCHEN MARK SHAD;MARCHEN LETTER KA;MARCHEN LETTER KHA
MARCHEN LETTER GA;MARCHEN LETTER NGA;MARCHEN LETTER CA;MARCHEN LETTER CHA;MARCHEN LETTER JA
MARCHEN LETTER NYA;MARCHEN LETTER TA;MARCHEN LETTER THA;MARCHEN LETTER DA;MARCHEN LETTER NA
MARCHEN LETTER PA;MARCHEN LETTER PHA;MARCHEN LETTER BA;MARCHEN LETTER MA;MARCHEN LETTER TSA
MARCHEN LETTER TSHA;MARCHEN LETTER DZA;MARCHEN LETTER WA;MARCHEN LETTER ZHA;MARCHEN LETTER ZA
MARCHEN LETTER -A;MARCHEN LETTER YA;MARCHEN LETTER RA;MARCHEN LETTER LA;MARCHEN LETTER SHA
MARCHEN LETTER SA;MARCHEN LETTER HA;MARCHEN LETTER A"),
  (0x11c92, "MARCHEN SUBJOINED LETTER KA;MARCHEN SUBJOINED LETTER KHA;MARCHEN SUBJOINED LETTER GA
MARCHEN SUBJOINED LETTER NGA;MARCHEN SUBJOINED LETTER CA;MARCHEN SUBJOINED LETTER CHA
MARCHEN SUBJOINED LETTER JA;MARCHEN SUBJOINED LETTER NYA;MARCHEN SUBJOINED LETTER TA
MARCHEN SUBJOINED LETTER THA;MARCHEN SUBJOINED LETTER DA;MARCHEN SUBJOINED LETTER NA
MARCHEN SUBJOINED LETTER PA;MARCHEN SUBJOINED LETTER PHA;MARCHEN SUBJOINED LETTER BA
MARCHEN SUBJOINED LETTER MA;MARCHEN SUBJOINED LETTER TSA;MARCHEN SUBJOINED LETTER TSHA
MARCHEN SUBJOINED LETTER DZA;MARCHEN SUBJOINED LETTER WA;MARCHEN SUBJOINED LETTER ZHA
MARCHEN SUBJOINED LETTER ZA"),
  (0x11ca9, "MARCHEN SUBJOINED LETTER YA;MARCHEN SUBJOINED LETTER RA;MARCHEN SUBJOINED LETTER LA
MARCHEN SUBJOINED LETTER SHA;MARCHEN SUBJOINED LETTER SA;MARCHEN SUBJOINED LETTER HA
MARCHEN SUBJOINED LETTER A;MARCHEN VOWEL SIGN AA;MARCHEN VOWEL SIGN I;MARCHEN VOWEL SIGN U
MARCHEN VOWEL SIGN E;MARCHEN VOWEL SIGN O;MARCHEN SIGN ANUSVARA;MARCHEN SIGN CANDRABINDU"),
  (0x11d00, "MASARAM GONDI LETTER A;MASARAM GONDI LETTER AA;MASARAM GONDI LETTER I
MASARAM GONDI LETTER II;MASARAM GONDI LETTER U;MASARAM GONDI LETTER UU;MASARAM GONDI LETTER E"),
  (0x11d08, "MASARAM GONDI LETTER AI;MASARAM GONDI LETTER O"),
  (0x11d0b, "MASARAM GONDI LETTER AU;MASARAM GONDI LETTER KA;MASARAM GONDI LETTER KHA
MASARAM GONDI LETTER GA;MASARAM GONDI LETTER GHA;MASARAM GONDI LETTER NGA;MASARAM GONDI LETTER CA
MASARAM GONDI LETTER CHA;MASARAM GONDI LETTER JA;MASARAM GONDI LETTER JHA
MASARAM GONDI LETTER NYA;MASARAM GONDI LETTER TTA;MASARAM GONDI LETTER TTHA
MASARAM GONDI LETTER DDA;MASARAM GONDI LETTER DDHA;MASARAM GONDI LETTER NNA
MASARAM GONDI LETTER TA;MASARAM GONDI LETTER THA;MASARAM GONDI LETTER DA;MASARAM GONDI LETTER DHA
MASARAM GONDI LETTER NA;MASARAM GONDI LETTER PA;MASARAM GONDI LETTER PHA;MASARAM GONDI LETTER BA
MASARAM GONDI LETTER BHA;MASARAM GONDI LETTER MA;MASARAM GONDI LETTER YA;MASARAM GONDI LETTER RA
MASARAM GONDI LETTER LA;MASARAM GONDI LETTER VA;MASARAM GONDI LETTER SHA;MASARAM GONDI LETTER SSA
MASARAM GONDI LETTER SA;MASARAM GONDI LETTER HA;MASARAM GONDI LETTER LLA
MASARAM GONDI LETTER KSSA;MASARAM GONDI LETTER JNYA;MASARAM GONDI LETTER TRA
MASARAM GONDI VOWEL SIGN AA;MASARAM GONDI VOWEL SIGN I;MASARAM GONDI VOWEL SIGN II
MASARAM GONDI VOWEL SIGN U;MASARAM GONDI VOWEL SIGN UU;MASARAM GONDI VOWEL SIGN VOCALIC R"),
  (0x11d3a, "MASARAM GONDI VOWEL SIGN E"),
  (0x11d3c, "MASARAM GONDI VOWEL SIGN AI;MASARAM GONDI VOWEL SIGN O"),
  (0x11d3f, "MASARAM GONDI VOWEL SIGN AU;MASARAM GONDI SIGN ANUSVARA;MASARAM GONDI SIGN VISARGA
MASARAM GONDI SIGN NUKTA;MASARAM GONDI SIGN CANDRA;MASARAM GONDI SIGN HALANTA
MASARAM GONDI VIRAMA;MASARAM GONDI REPHA;MASARAM GONDI RA-KARA"),
  (0x11d50, "MASARAM GONDI DIGIT ZERO;MASARAM GONDI DIGIT ONE;MASARAM GONDI DIGIT TWO
MASARAM GONDI DIGIT THREE;MASARAM GONDI DIGIT FOUR;MASARAM GONDI DIGIT FIVE
MASARAM GONDI DIGIT SIX;MASARAM GONDI DIGIT SEVEN;MASARAM GONDI DIGIT EIGHT
MASARAM GONDI DIGIT NINE"),
  (0x11d60, "GUNJALA GONDI LETTER A;GUNJALA GONDI LETTER AA;GUNJALA GONDI LETTER I
GUNJALA GONDI LETTER II;GUNJALA GONDI LETTER U;GUNJALA GONDI LETTER UU"),
  (0x11d67, "GUNJALA GONDI LETTER EE;GUNJALA GONDI LETTER AI"),
  (0x11d6a, "GUNJALA GONDI LETTER OO;GUNJALA GONDI LETTER AU;GUNJALA GONDI LETTER YA
GUNJALA GONDI LETTER VA;GUNJALA GONDI LETTER BA;GUNJALA GONDI LETTER BHA;GUNJALA GONDI LETTER MA
GUNJALA GONDI LETTER KA;GUNJALA GONDI LETTER KHA;GUNJALA GONDI LETTER TA;GUNJALA GONDI LETTER THA
GUNJALA GONDI LETTER LA;GUNJALA GONDI LETTER GA;GUNJALA GONDI LETTER GHA;GUNJALA GONDI LETTER DA
GUNJALA GONDI LETTER DHA;GUNJALA GONDI LETTER NA;GUNJALA GONDI LETTER CA;GUNJALA GONDI LETTER CHA
GUNJALA GONDI LETTER TTA;GUNJALA GONDI LETTER TTHA;GUNJALA GONDI LETTER LLA
GUNJALA GONDI LETTER JA;GUNJALA GONDI LETTER JHA;GUNJALA GONDI LETTER DDA
GUNJALA GONDI LETTER DDHA;GUNJALA GONDI LETTER NGA;GUNJALA GONDI LETTER PA
GUNJALA GONDI LETTER PHA;GUNJALA GONDI LETTER HA;GUNJALA GONDI LETTER RA;GUNJALA GONDI LETTER SA
GUNJALA GONDI VOWEL SIGN AA;GUNJALA GONDI VOWEL SIGN I;GUNJALA GONDI VOWEL SIGN II
GUNJALA GONDI VOWEL SIGN U;GUNJALA GONDI VOWEL SIGN UU"),
  (0x11d90, "GUNJALA GONDI VOWEL SIGN EE;GUNJALA GONDI VOWEL SIGN AI"),
  (0x11d93, "GUNJALA GONDI VOWEL SIGN OO;GUNJALA GONDI VOWEL SIGN AU;GUNJALA GONDI SIGN ANUSVARA
GUNJALA GONDI SIGN VISARGA;GUNJALA GONDI VIRAMA;GUNJALA GONDI OM"),
  (0x11da0, "GUNJALA GONDI DIGIT ZERO;GUNJALA GONDI DIGIT ONE;GUNJALA GONDI DIGIT TWO
GUNJALA GONDI DIGIT THREE;GUNJALA GONDI DIGIT FOUR;GUNJALA GONDI DIGIT FIVE
GUNJALA GONDI DIGIT SIX;GUNJALA GONDI DIGIT SEVEN;GUNJALA GONDI DIGIT EIGHT
GUNJALA GONDI DIGIT NINE"),
  (0x11ee0, "MAKASAR LETTER KA;MAKASAR LETTER GA;MAKASAR LETTER NGA;MAKASAR LETTER PA
MAKASAR LETTER BA;MAKASAR LETTER MA;MAKASAR LETTER TA;MAKASAR LETTER DA;MAKASAR LETTER NA
MAKASAR LETTER CA;MAKASAR LETTER JA;MAKASAR LETTER NYA;MAKASAR LETTER YA;MAKASAR LETTER RA
MAKASAR LETTER LA;MAKASAR LETTER VA;MAKASAR LETTER SA;MAKASAR LETTER A;MAKASAR ANGKA
MAKASAR VOWEL SIGN I;MAKASAR VOWEL SIGN U;MAKASAR VOWEL SIGN E;MAKASAR VOWEL SIGN O
MAKASAR PASSIMBANG;MAKASAR END OF SECTION"),
  (0x11fb0, "LISU LETTER YHA"),
  (0x11fc0, "TAMIL FRACTION ONE THREE-HUNDRED-AND-TWENTIETH
TAMIL FRACTION ONE ONE-HUNDRED-AND-SIXTIETH;TAMIL FRACTION ONE EIGHTIETH
TAMIL FRACTION ONE SIXTY-FOURTH;TAMIL FRACTION ONE FORTIETH;TAMIL FRACTION ONE THIRTY-SECOND
TAMIL FRACTION THREE EIGHTIETHS;TAMIL FRACTION THREE SIXTY-FOURTHS;TAMIL FRACTION ONE TWENTIETH
TAMIL FRACTION ONE SIXTEENTH-1;TAMIL FRACTION ONE SIXTEENTH-2;TAMIL FRACTION ONE TENTH
TAMIL FRACTION ONE EIGHTH;TAMIL FRACTION THREE TWENTIETHS;TAMIL FRACTION THREE SIXTEENTHS
TAMIL FRACTION ONE FIFTH;TAMIL FRACTION ONE QUARTER;TAMIL FRACTION ONE HALF-1
TAMIL FRACTION ONE HALF-2;TAMIL FRACTION THREE QUARTERS;TAMIL FRACTION DOWNSCALING FACTOR KIIZH
TAMIL SIGN NEL;TAMIL SIGN CEVITU;TAMIL SIGN AAZHAAKKU;TAMIL SIGN UZHAKKU;TAMIL SIGN MUUVUZHAKKU
TAMIL SIGN KURUNI;TAMIL SIGN PATHAKKU;TAMIL SIGN MUKKURUNI;TAMIL SIGN KAACU;TAMIL SIGN PANAM
TAMIL SIGN PON;TAMIL SIGN VARAAKAN;TAMIL SIGN PAARAM;TAMIL SIGN KUZHI;TAMIL SIGN VELI
TAMIL WET CULTIVATION SIGN;TAMIL DRY CULTIVATION SIGN;TAMIL LAND SIGN;TAMIL SALT PAN SIGN
TAMIL TRADITIONAL CREDIT SIGN;TAMIL TRADITIONAL NUMBER SIGN;TAMIL CURRENT SIGN;TAMIL AND ODD SIGN
TAMIL SPENT SIGN;TAMIL TOTAL SIGN;TAMIL IN POSSESSION SIGN;TAMIL STARTING FROM SIGN
TAMIL SIGN MUTHALIYA;TAMIL SIGN VAKAIYARAA"),
  (0x11fff, "TAMIL PUNCTUATION END OF TEXT;CUNEIFORM SIGN A;CUNEIFORM SIGN A TIMES A
CUNEIFORM SIGN A TIMES BAD;CUNEIFORM SIGN A TIMES GAN2 TENU;CUNEIFORM SIGN A TIMES HA
CUNEIFORM SIGN A TIMES IGI;CUNEIFORM SIGN A TIMES LAGAR GUNU;CUNEIFORM SIGN A TIMES MUSH
CUNEIFORM SIGN A TIMES SAG;CUNEIFORM SIGN A2;CUNEIFORM SIGN AB;CUNEIFORM SIGN AB TIMES ASH2
CUNEIFORM SIGN AB TIMES DUN3 GUNU;CUNEIFORM SIGN AB TIMES GAL;CUNEIFORM SIGN AB TIMES GAN2 TENU
CUNEIFORM SIGN AB TIMES HA;CUNEIFORM SIGN AB TIMES IGI GUNU;CUNEIFORM SIGN AB TIMES IMIN
CUNEIFORM SIGN AB TIMES LAGAB;CUNEIFORM SIGN AB TIMES SHESH
CUNEIFORM SIGN AB TIMES U PLUS U PLUS U;CUNEIFORM SIGN AB GUNU;CUNEIFORM SIGN AB2
CUNEIFORM SIGN AB2 TIMES BALAG;CUNEIFORM SIGN AB2 TIMES GAN2 TENU
CUNEIFORM SIGN AB2 TIMES ME PLUS EN;CUNEIFORM SIGN AB2 TIMES SHA3;CUNEIFORM SIGN AB2 TIMES TAK4
CUNEIFORM SIGN AD;CUNEIFORM SIGN AK;CUNEIFORM SIGN AK TIMES ERIN2
CUNEIFORM SIGN AK TIMES SHITA PLUS GISH;CUNEIFORM SIGN AL;CUNEIFORM SIGN AL TIMES AL
CUNEIFORM SIGN AL TIMES DIM2;CUNEIFORM SIGN AL TIMES GISH;CUNEIFORM SIGN AL TIMES HA
CUNEIFORM SIGN AL TIMES KAD3;CUNEIFORM SIGN AL TIMES KI;CUNEIFORM SIGN AL TIMES SHE
CUNEIFORM SIGN AL TIMES USH;CUNEIFORM SIGN ALAN;CUNEIFORM SIGN ALEPH;CUNEIFORM SIGN AMAR
CUNEIFORM SIGN AMAR TIMES SHE;CUNEIFORM SIGN AN;CUNEIFORM SIGN AN OVER AN
CUNEIFORM SIGN AN THREE TIMES;CUNEIFORM SIGN AN PLUS NAGA OPPOSING AN PLUS NAGA
CUNEIFORM SIGN AN PLUS NAGA SQUARED;CUNEIFORM SIGN ANSHE;CUNEIFORM SIGN APIN;CUNEIFORM SIGN ARAD
CUNEIFORM SIGN ARAD TIMES KUR;CUNEIFORM SIGN ARKAB;CUNEIFORM SIGN ASAL2;CUNEIFORM SIGN ASH
CUNEIFORM SIGN ASH ZIDA TENU;CUNEIFORM SIGN ASH KABA TENU
CUNEIFORM SIGN ASH OVER ASH TUG2 OVER TUG2 TUG2 OVER TUG2 PAP
CUNEIFORM SIGN ASH OVER ASH OVER ASH
CUNEIFORM SIGN ASH OVER ASH OVER ASH CROSSING ASH OVER ASH OVER ASH;CUNEIFORM SIGN ASH2
CUNEIFORM SIGN ASHGAB;CUNEIFORM SIGN BA;CUNEIFORM SIGN BAD;CUNEIFORM SIGN BAG3
CUNEIFORM SIGN BAHAR2;CUNEIFORM SIGN BAL;CUNEIFORM SIGN BAL OVER BAL;CUNEIFORM SIGN BALAG
CUNEIFORM SIGN BAR;CUNEIFORM SIGN BARA2;CUNEIFORM SIGN BI;CUNEIFORM SIGN BI TIMES A
CUNEIFORM SIGN BI TIMES GAR;CUNEIFORM SIGN BI TIMES IGI GUNU;CUNEIFORM SIGN BU
CUNEIFORM SIGN BU OVER BU AB;CUNEIFORM SIGN BU OVER BU UN;CUNEIFORM SIGN BU CROSSING BU
CUNEIFORM SIGN BULUG;CUNEIFORM SIGN BULUG OVER BULUG;CUNEIFORM SIGN BUR;CUNEIFORM SIGN BUR2
CUNEIFORM SIGN DA;CUNEIFORM SIGN DAG;CUNEIFORM SIGN DAG KISIM5 TIMES A PLUS MASH
CUNEIFORM SIGN DAG KISIM5 TIMES AMAR;CUNEIFORM SIGN DAG KISIM5 TIMES BALAG
CUNEIFORM SIGN DAG KISIM5 TIMES BI;CUNEIFORM SIGN DAG KISIM5 TIMES GA
CUNEIFORM SIGN DAG KISIM5 TIMES GA PLUS MASH;CUNEIFORM SIGN DAG KISIM5 TIMES GI
CUNEIFORM SIGN DAG KISIM5 TIMES GIR2;CUNEIFORM SIGN DAG KISIM5 TIMES GUD
CUNEIFORM SIGN DAG KISIM5 TIMES HA;CUNEIFORM SIGN DAG KISIM5 TIMES IR
CUNEIFORM SIGN DAG KISIM5 TIMES IR PLUS LU;CUNEIFORM SIGN DAG KISIM5 TIMES KAK
CUNEIFORM SIGN DAG KISIM5 TIMES LA;CUNEIFORM SIGN DAG KISIM5 TIMES LU
CUNEIFORM SIGN DAG KISIM5 TIMES LU PLUS MASH2;CUNEIFORM SIGN DAG KISIM5 TIMES LUM
CUNEIFORM SIGN DAG KISIM5 TIMES NE;CUNEIFORM SIGN DAG KISIM5 TIMES PAP PLUS PAP
CUNEIFORM SIGN DAG KISIM5 TIMES SI;CUNEIFORM SIGN DAG KISIM5 TIMES TAK4
CUNEIFORM SIGN DAG KISIM5 TIMES U2 PLUS GIR2;CUNEIFORM SIGN DAG KISIM5 TIMES USH
CUNEIFORM SIGN DAM;CUNEIFORM SIGN DAR;CUNEIFORM SIGN DARA3;CUNEIFORM SIGN DARA4;CUNEIFORM SIGN DI
CUNEIFORM SIGN DIB;CUNEIFORM SIGN DIM;CUNEIFORM SIGN DIM TIMES SHE;CUNEIFORM SIGN DIM2
CUNEIFORM SIGN DIN;CUNEIFORM SIGN DIN KASKAL U GUNU DISH;CUNEIFORM SIGN DISH;CUNEIFORM SIGN DU
CUNEIFORM SIGN DU OVER DU;CUNEIFORM SIGN DU GUNU;CUNEIFORM SIGN DU SHESHIG;CUNEIFORM SIGN DUB
CUNEIFORM SIGN DUB TIMES ESH2;CUNEIFORM SIGN DUB2;CUNEIFORM SIGN DUG;CUNEIFORM SIGN DUGUD
CUNEIFORM SIGN DUH;CUNEIFORM SIGN DUN;CUNEIFORM SIGN DUN3;CUNEIFORM SIGN DUN3 GUNU
CUNEIFORM SIGN DUN3 GUNU GUNU;CUNEIFORM SIGN DUN4;CUNEIFORM SIGN DUR2;CUNEIFORM SIGN E
CUNEIFORM SIGN E TIMES PAP;CUNEIFORM SIGN E OVER E NUN OVER NUN;CUNEIFORM SIGN E2
CUNEIFORM SIGN E2 TIMES A PLUS HA PLUS DA;CUNEIFORM SIGN E2 TIMES GAR;CUNEIFORM SIGN E2 TIMES MI
CUNEIFORM SIGN E2 TIMES SAL;CUNEIFORM SIGN E2 TIMES SHE;CUNEIFORM SIGN E2 TIMES U
CUNEIFORM SIGN EDIN;CUNEIFORM SIGN EGIR;CUNEIFORM SIGN EL;CUNEIFORM SIGN EN
CUNEIFORM SIGN EN TIMES GAN2;CUNEIFORM SIGN EN TIMES GAN2 TENU;CUNEIFORM SIGN EN TIMES ME
CUNEIFORM SIGN EN CROSSING EN;CUNEIFORM SIGN EN OPPOSING EN;CUNEIFORM SIGN EN SQUARED
CUNEIFORM SIGN EREN;CUNEIFORM SIGN ERIN2;CUNEIFORM SIGN ESH2;CUNEIFORM SIGN EZEN
CUNEIFORM SIGN EZEN TIMES A;CUNEIFORM SIGN EZEN TIMES A PLUS LAL
CUNEIFORM SIGN EZEN TIMES A PLUS LAL TIMES LAL;CUNEIFORM SIGN EZEN TIMES AN
CUNEIFORM SIGN EZEN TIMES BAD;CUNEIFORM SIGN EZEN TIMES DUN3 GUNU
CUNEIFORM SIGN EZEN TIMES DUN3 GUNU GUNU;CUNEIFORM SIGN EZEN TIMES HA
CUNEIFORM SIGN EZEN TIMES HA GUNU;CUNEIFORM SIGN EZEN TIMES IGI GUNU
CUNEIFORM SIGN EZEN TIMES KASKAL;CUNEIFORM SIGN EZEN TIMES KASKAL SQUARED
CUNEIFORM SIGN EZEN TIMES KU3;CUNEIFORM SIGN EZEN TIMES LA
CUNEIFORM SIGN EZEN TIMES LAL TIMES LAL;CUNEIFORM SIGN EZEN TIMES LI;CUNEIFORM SIGN EZEN TIMES LU
CUNEIFORM SIGN EZEN TIMES U2;CUNEIFORM SIGN EZEN TIMES UD;CUNEIFORM SIGN GA
CUNEIFORM SIGN GA GUNU;CUNEIFORM SIGN GA2;CUNEIFORM SIGN GA2 TIMES A PLUS DA PLUS HA
CUNEIFORM SIGN GA2 TIMES A PLUS HA;CUNEIFORM SIGN GA2 TIMES A PLUS IGI
CUNEIFORM SIGN GA2 TIMES AB2 TENU PLUS TAB;CUNEIFORM SIGN GA2 TIMES AN
CUNEIFORM SIGN GA2 TIMES ASH;CUNEIFORM SIGN GA2 TIMES ASH2 PLUS GAL;CUNEIFORM SIGN GA2 TIMES BAD
CUNEIFORM SIGN GA2 TIMES BAR PLUS RA;CUNEIFORM SIGN GA2 TIMES BUR
CUNEIFORM SIGN GA2 TIMES BUR PLUS RA;CUNEIFORM SIGN GA2 TIMES DA;CUNEIFORM SIGN GA2 TIMES DI
CUNEIFORM SIGN GA2 TIMES DIM TIMES SHE;CUNEIFORM SIGN GA2 TIMES DUB;CUNEIFORM SIGN GA2 TIMES EL
CUNEIFORM SIGN GA2 TIMES EL PLUS LA;CUNEIFORM SIGN GA2 TIMES EN
CUNEIFORM SIGN GA2 TIMES EN TIMES GAN2 TENU;CUNEIFORM SIGN GA2 TIMES GAN2 TENU
CUNEIFORM SIGN GA2 TIMES GAR;CUNEIFORM SIGN GA2 TIMES GI;CUNEIFORM SIGN GA2 TIMES GI4
CUNEIFORM SIGN GA2 TIMES GI4 PLUS A;CUNEIFORM SIGN GA2 TIMES GIR2 PLUS SU
CUNEIFORM SIGN GA2 TIMES HA PLUS LU PLUS ESH2;CUNEIFORM SIGN GA2 TIMES HAL
CUNEIFORM SIGN GA2 TIMES HAL PLUS LA;CUNEIFORM SIGN GA2 TIMES HI PLUS LI
CUNEIFORM SIGN GA2 TIMES HUB2;CUNEIFORM SIGN GA2 TIMES IGI GUNU
CUNEIFORM SIGN GA2 TIMES ISH PLUS HU PLUS ASH;CUNEIFORM SIGN GA2 TIMES KAK
CUNEIFORM SIGN GA2 TIMES KASKAL;CUNEIFORM SIGN GA2 TIMES KID
CUNEIFORM SIGN GA2 TIMES KID PLUS LAL;CUNEIFORM SIGN GA2 TIMES KU3 PLUS AN
CUNEIFORM SIGN GA2 TIMES LA;CUNEIFORM SIGN GA2 TIMES ME PLUS EN;CUNEIFORM SIGN GA2 TIMES MI
CUNEIFORM SIGN GA2 TIMES NUN;CUNEIFORM SIGN GA2 TIMES NUN OVER NUN;CUNEIFORM SIGN GA2 TIMES PA
CUNEIFORM SIGN GA2 TIMES SAL;CUNEIFORM SIGN GA2 TIMES SAR;CUNEIFORM SIGN GA2 TIMES SHE
CUNEIFORM SIGN GA2 TIMES SHE PLUS TUR;CUNEIFORM SIGN GA2 TIMES SHID;CUNEIFORM SIGN GA2 TIMES SUM
CUNEIFORM SIGN GA2 TIMES TAK4;CUNEIFORM SIGN GA2 TIMES U;CUNEIFORM SIGN GA2 TIMES UD
CUNEIFORM SIGN GA2 TIMES UD PLUS DU;CUNEIFORM SIGN GA2 OVER GA2;CUNEIFORM SIGN GABA
CUNEIFORM SIGN GABA CROSSING GABA;CUNEIFORM SIGN GAD;CUNEIFORM SIGN GAD OVER GAD GAR OVER GAR
CUNEIFORM SIGN GAL;CUNEIFORM SIGN GAL GAD OVER GAD GAR OVER GAR;CUNEIFORM SIGN GALAM
CUNEIFORM SIGN GAM;CUNEIFORM SIGN GAN;CUNEIFORM SIGN GAN2;CUNEIFORM SIGN GAN2 TENU
CUNEIFORM SIGN GAN2 OVER GAN2;CUNEIFORM SIGN GAN2 CROSSING GAN2;CUNEIFORM SIGN GAR
CUNEIFORM SIGN GAR3;CUNEIFORM SIGN GASHAN;CUNEIFORM SIGN GESHTIN;CUNEIFORM SIGN GESHTIN TIMES KUR
CUNEIFORM SIGN GI;CUNEIFORM SIGN GI TIMES E;CUNEIFORM SIGN GI TIMES U
CUNEIFORM SIGN GI CROSSING GI;CUNEIFORM SIGN GI4;CUNEIFORM SIGN GI4 OVER GI4
CUNEIFORM SIGN GI4 CROSSING GI4;CUNEIFORM SIGN GIDIM;CUNEIFORM SIGN GIR2;CUNEIFORM SIGN GIR2 GUNU
CUNEIFORM SIGN GIR3;CUNEIFORM SIGN GIR3 TIMES A PLUS IGI;CUNEIFORM SIGN GIR3 TIMES GAN2 TENU
CUNEIFORM SIGN GIR3 TIMES IGI;CUNEIFORM SIGN GIR3 TIMES LU PLUS IGI;CUNEIFORM SIGN GIR3 TIMES PA
CUNEIFORM SIGN GISAL;CUNEIFORM SIGN GISH;CUNEIFORM SIGN GISH CROSSING GISH
CUNEIFORM SIGN GISH TIMES BAD;CUNEIFORM SIGN GISH TIMES TAK4;CUNEIFORM SIGN GISH TENU
CUNEIFORM SIGN GU;CUNEIFORM SIGN GU CROSSING GU;CUNEIFORM SIGN GU2;CUNEIFORM SIGN GU2 TIMES KAK
CUNEIFORM SIGN GU2 TIMES KAK TIMES IGI GUNU;CUNEIFORM SIGN GU2 TIMES NUN
CUNEIFORM SIGN GU2 TIMES SAL PLUS TUG2;CUNEIFORM SIGN GU2 GUNU;CUNEIFORM SIGN GUD
CUNEIFORM SIGN GUD TIMES A PLUS KUR;CUNEIFORM SIGN GUD TIMES KUR
CUNEIFORM SIGN GUD OVER GUD LUGAL;CUNEIFORM SIGN GUL;CUNEIFORM SIGN GUM
CUNEIFORM SIGN GUM TIMES SHE;CUNEIFORM SIGN GUR;CUNEIFORM SIGN GUR7;CUNEIFORM SIGN GURUN
CUNEIFORM SIGN GURUSH;CUNEIFORM SIGN HA;CUNEIFORM SIGN HA TENU;CUNEIFORM SIGN HA GUNU
CUNEIFORM SIGN HAL;CUNEIFORM SIGN HI;CUNEIFORM SIGN HI TIMES ASH;CUNEIFORM SIGN HI TIMES ASH2
CUNEIFORM SIGN HI TIMES BAD;CUNEIFORM SIGN HI TIMES DISH;CUNEIFORM SIGN HI TIMES GAD
CUNEIFORM SIGN HI TIMES KIN;CUNEIFORM SIGN HI TIMES NUN;CUNEIFORM SIGN HI TIMES SHE
CUNEIFORM SIGN HI TIMES U;CUNEIFORM SIGN HU;CUNEIFORM SIGN HUB2;CUNEIFORM SIGN HUB2 TIMES AN
CUNEIFORM SIGN HUB2 TIMES HAL;CUNEIFORM SIGN HUB2 TIMES KASKAL;CUNEIFORM SIGN HUB2 TIMES LISH
CUNEIFORM SIGN HUB2 TIMES UD;CUNEIFORM SIGN HUL2;CUNEIFORM SIGN I;CUNEIFORM SIGN I A
CUNEIFORM SIGN IB;CUNEIFORM SIGN IDIM;CUNEIFORM SIGN IDIM OVER IDIM BUR
CUNEIFORM SIGN IDIM OVER IDIM SQUARED;CUNEIFORM SIGN IG;CUNEIFORM SIGN IGI;CUNEIFORM SIGN IGI DIB
CUNEIFORM SIGN IGI RI;CUNEIFORM SIGN IGI OVER IGI SHIR OVER SHIR UD OVER UD
CUNEIFORM SIGN IGI GUNU;CUNEIFORM SIGN IL;CUNEIFORM SIGN IL TIMES GAN2 TENU;CUNEIFORM SIGN IL2
CUNEIFORM SIGN IM;CUNEIFORM SIGN IM TIMES TAK4;CUNEIFORM SIGN IM CROSSING IM
CUNEIFORM SIGN IM OPPOSING IM;CUNEIFORM SIGN IM SQUARED;CUNEIFORM SIGN IMIN;CUNEIFORM SIGN IN
CUNEIFORM SIGN IR;CUNEIFORM SIGN ISH;CUNEIFORM SIGN KA;CUNEIFORM SIGN KA TIMES A
CUNEIFORM SIGN KA TIMES AD;CUNEIFORM SIGN KA TIMES AD PLUS KU3;CUNEIFORM SIGN KA TIMES ASH2
CUNEIFORM SIGN KA TIMES BAD;CUNEIFORM SIGN KA TIMES BALAG;CUNEIFORM SIGN KA TIMES BAR
CUNEIFORM SIGN KA TIMES BI;CUNEIFORM SIGN KA TIMES ERIN2;CUNEIFORM SIGN KA TIMES ESH2
CUNEIFORM SIGN KA TIMES GA;CUNEIFORM SIGN KA TIMES GAL;CUNEIFORM SIGN KA TIMES GAN2 TENU
CUNEIFORM SIGN KA TIMES GAR;CUNEIFORM SIGN KA TIMES GAR PLUS SHA3 PLUS A
CUNEIFORM SIGN KA TIMES GI;CUNEIFORM SIGN KA TIMES GIR2;CUNEIFORM SIGN KA TIMES GISH PLUS SAR
CUNEIFORM SIGN KA TIMES GISH CROSSING GISH;CUNEIFORM SIGN KA TIMES GU
CUNEIFORM SIGN KA TIMES GUR7;CUNEIFORM SIGN KA TIMES IGI;CUNEIFORM SIGN KA TIMES IM
CUNEIFORM SIGN KA TIMES KAK;CUNEIFORM SIGN KA TIMES KI;CUNEIFORM SIGN KA TIMES KID
CUNEIFORM SIGN KA TIMES LI;CUNEIFORM SIGN KA TIMES LU;CUNEIFORM SIGN KA TIMES ME
CUNEIFORM SIGN KA TIMES ME PLUS DU;CUNEIFORM SIGN KA TIMES ME PLUS GI
CUNEIFORM SIGN KA TIMES ME PLUS TE;CUNEIFORM SIGN KA TIMES MI
CUNEIFORM SIGN KA TIMES MI PLUS NUNUZ;CUNEIFORM SIGN KA TIMES NE;CUNEIFORM SIGN KA TIMES NUN
CUNEIFORM SIGN KA TIMES PI;CUNEIFORM SIGN KA TIMES RU;CUNEIFORM SIGN KA TIMES SA
CUNEIFORM SIGN KA TIMES SAR;CUNEIFORM SIGN KA TIMES SHA;CUNEIFORM SIGN KA TIMES SHE
CUNEIFORM SIGN KA TIMES SHID;CUNEIFORM SIGN KA TIMES SHU;CUNEIFORM SIGN KA TIMES SIG
CUNEIFORM SIGN KA TIMES SUHUR;CUNEIFORM SIGN KA TIMES TAR;CUNEIFORM SIGN KA TIMES U
CUNEIFORM SIGN KA TIMES U2;CUNEIFORM SIGN KA TIMES UD;CUNEIFORM SIGN KA TIMES UMUM TIMES PA
CUNEIFORM SIGN KA TIMES USH;CUNEIFORM SIGN KA TIMES ZI;CUNEIFORM SIGN KA2
CUNEIFORM SIGN KA2 CROSSING KA2;CUNEIFORM SIGN KAB;CUNEIFORM SIGN KAD2;CUNEIFORM SIGN KAD3
CUNEIFORM SIGN KAD4;CUNEIFORM SIGN KAD5;CUNEIFORM SIGN KAD5 OVER KAD5;CUNEIFORM SIGN KAK
CUNEIFORM SIGN KAK TIMES IGI GUNU;CUNEIFORM SIGN KAL;CUNEIFORM SIGN KAL TIMES BAD
CUNEIFORM SIGN KAL CROSSING KAL;CUNEIFORM SIGN KAM2;CUNEIFORM SIGN KAM4;CUNEIFORM SIGN KASKAL
CUNEIFORM SIGN KASKAL LAGAB TIMES U OVER LAGAB TIMES U
CUNEIFORM SIGN KASKAL OVER KASKAL LAGAB TIMES U OVER LAGAB TIMES U;CUNEIFORM SIGN KESH2
CUNEIFORM SIGN KI;CUNEIFORM SIGN KI TIMES BAD;CUNEIFORM SIGN KI TIMES U
CUNEIFORM SIGN KI TIMES UD;CUNEIFORM SIGN KID;CUNEIFORM SIGN KIN;CUNEIFORM SIGN KISAL
CUNEIFORM SIGN KISH;CUNEIFORM SIGN KISIM5;CUNEIFORM SIGN KISIM5 OVER KISIM5;CUNEIFORM SIGN KU
CUNEIFORM SIGN KU OVER HI TIMES ASH2 KU OVER HI TIMES ASH2;CUNEIFORM SIGN KU3;CUNEIFORM SIGN KU4
CUNEIFORM SIGN KU4 VARIANT FORM;CUNEIFORM SIGN KU7;CUNEIFORM SIGN KUL;CUNEIFORM SIGN KUL GUNU
CUNEIFORM SIGN KUN;CUNEIFORM SIGN KUR;CUNEIFORM SIGN KUR OPPOSING KUR;CUNEIFORM SIGN KUSHU2
CUNEIFORM SIGN KWU318;CUNEIFORM SIGN LA;CUNEIFORM SIGN LAGAB;CUNEIFORM SIGN LAGAB TIMES A
CUNEIFORM SIGN LAGAB TIMES A PLUS DA PLUS HA;CUNEIFORM SIGN LAGAB TIMES A PLUS GAR
CUNEIFORM SIGN LAGAB TIMES A PLUS LAL;CUNEIFORM SIGN LAGAB TIMES AL;CUNEIFORM SIGN LAGAB TIMES AN
CUNEIFORM SIGN LAGAB TIMES ASH ZIDA TENU;CUNEIFORM SIGN LAGAB TIMES BAD
CUNEIFORM SIGN LAGAB TIMES BI;CUNEIFORM SIGN LAGAB TIMES DAR;CUNEIFORM SIGN LAGAB TIMES EN
CUNEIFORM SIGN LAGAB TIMES GA;CUNEIFORM SIGN LAGAB TIMES GAR;CUNEIFORM SIGN LAGAB TIMES GUD
CUNEIFORM SIGN LAGAB TIMES GUD PLUS GUD;CUNEIFORM SIGN LAGAB TIMES HA
CUNEIFORM SIGN LAGAB TIMES HAL;CUNEIFORM SIGN LAGAB TIMES HI TIMES NUN
CUNEIFORM SIGN LAGAB TIMES IGI GUNU;CUNEIFORM SIGN LAGAB TIMES IM
CUNEIFORM SIGN LAGAB TIMES IM PLUS HA;CUNEIFORM SIGN LAGAB TIMES IM PLUS LU
CUNEIFORM SIGN LAGAB TIMES KI;CUNEIFORM SIGN LAGAB TIMES KIN;CUNEIFORM SIGN LAGAB TIMES KU3
CUNEIFORM SIGN LAGAB TIMES KUL;CUNEIFORM SIGN LAGAB TIMES KUL PLUS HI PLUS A
CUNEIFORM SIGN LAGAB TIMES LAGAB;CUNEIFORM SIGN LAGAB TIMES LISH;CUNEIFORM SIGN LAGAB TIMES LU
CUNEIFORM SIGN LAGAB TIMES LUL;CUNEIFORM SIGN LAGAB TIMES ME
CUNEIFORM SIGN LAGAB TIMES ME PLUS EN;CUNEIFORM SIGN LAGAB TIMES MUSH
CUNEIFORM SIGN LAGAB TIMES NE;CUNEIFORM SIGN LAGAB TIMES SHE PLUS SUM
CUNEIFORM SIGN LAGAB TIMES SHITA PLUS GISH PLUS ERIN2
CUNEIFORM SIGN LAGAB TIMES SHITA PLUS GISH TENU;CUNEIFORM SIGN LAGAB TIMES SHU2
CUNEIFORM SIGN LAGAB TIMES SHU2 PLUS SHU2;CUNEIFORM SIGN LAGAB TIMES SUM
CUNEIFORM SIGN LAGAB TIMES TAG;CUNEIFORM SIGN LAGAB TIMES TAK4
CUNEIFORM SIGN LAGAB TIMES TE PLUS A PLUS SU PLUS NA;CUNEIFORM SIGN LAGAB TIMES U
CUNEIFORM SIGN LAGAB TIMES U PLUS A;CUNEIFORM SIGN LAGAB TIMES U PLUS U PLUS U
CUNEIFORM SIGN LAGAB TIMES U2 PLUS ASH;CUNEIFORM SIGN LAGAB TIMES UD
CUNEIFORM SIGN LAGAB TIMES USH;CUNEIFORM SIGN LAGAB SQUARED;CUNEIFORM SIGN LAGAR
CUNEIFORM SIGN LAGAR TIMES SHE;CUNEIFORM SIGN LAGAR TIMES SHE PLUS SUM;CUNEIFORM SIGN LAGAR GUNU
CUNEIFORM SIGN LAGAR GUNU OVER LAGAR GUNU SHE;CUNEIFORM SIGN LAHSHU;CUNEIFORM SIGN LAL
CUNEIFORM SIGN LAL TIMES LAL;CUNEIFORM SIGN LAM;CUNEIFORM SIGN LAM TIMES KUR
CUNEIFORM SIGN LAM TIMES KUR PLUS RU;CUNEIFORM SIGN LI;CUNEIFORM SIGN LIL;CUNEIFORM SIGN LIMMU2
CUNEIFORM SIGN LISH;CUNEIFORM SIGN LU;CUNEIFORM SIGN LU TIMES BAD;CUNEIFORM SIGN LU2
CUNEIFORM SIGN LU2 TIMES AL;CUNEIFORM SIGN LU2 TIMES BAD;CUNEIFORM SIGN LU2 TIMES ESH2
CUNEIFORM SIGN LU2 TIMES ESH2 TENU;CUNEIFORM SIGN LU2 TIMES GAN2 TENU
CUNEIFORM SIGN LU2 TIMES HI TIMES BAD;CUNEIFORM SIGN LU2 TIMES IM;CUNEIFORM SIGN LU2 TIMES KAD2
CUNEIFORM SIGN LU2 TIMES KAD3;CUNEIFORM SIGN LU2 TIMES KAD3 PLUS ASH;CUNEIFORM SIGN LU2 TIMES KI
CUNEIFORM SIGN LU2 TIMES LA PLUS ASH;CUNEIFORM SIGN LU2 TIMES LAGAB
CUNEIFORM SIGN LU2 TIMES ME PLUS EN;CUNEIFORM SIGN LU2 TIMES NE;CUNEIFORM SIGN LU2 TIMES NU
CUNEIFORM SIGN LU2 TIMES SI PLUS ASH;CUNEIFORM SIGN LU2 TIMES SIK2 PLUS BU
CUNEIFORM SIGN LU2 TIMES TUG2;CUNEIFORM SIGN LU2 TENU;CUNEIFORM SIGN LU2 CROSSING LU2
CUNEIFORM SIGN LU2 OPPOSING LU2;CUNEIFORM SIGN LU2 SQUARED;CUNEIFORM SIGN LU2 SHESHIG
CUNEIFORM SIGN LU3;CUNEIFORM SIGN LUGAL;CUNEIFORM SIGN LUGAL OVER LUGAL
CUNEIFORM SIGN LUGAL OPPOSING LUGAL;CUNEIFORM SIGN LUGAL SHESHIG;CUNEIFORM SIGN LUH
CUNEIFORM SIGN LUL;CUNEIFORM SIGN LUM;CUNEIFORM SIGN LUM OVER LUM
CUNEIFORM SIGN LUM OVER LUM GAR OVER GAR;CUNEIFORM SIGN MA;CUNEIFORM SIGN MA TIMES TAK4
CUNEIFORM SIGN MA GUNU;CUNEIFORM SIGN MA2;CUNEIFORM SIGN MAH;CUNEIFORM SIGN MAR
CUNEIFORM SIGN MASH;CUNEIFORM SIGN MASH2;CUNEIFORM SIGN ME;CUNEIFORM SIGN MES;CUNEIFORM SIGN MI
CUNEIFORM SIGN MIN;CUNEIFORM SIGN MU;CUNEIFORM SIGN MU OVER MU;CUNEIFORM SIGN MUG
CUNEIFORM SIGN MUG GUNU;CUNEIFORM SIGN MUNSUB;CUNEIFORM SIGN MURGU2;CUNEIFORM SIGN MUSH
CUNEIFORM SIGN MUSH TIMES A;CUNEIFORM SIGN MUSH TIMES KUR;CUNEIFORM SIGN MUSH TIMES ZA
CUNEIFORM SIGN MUSH OVER MUSH;CUNEIFORM SIGN MUSH OVER MUSH TIMES A PLUS NA
CUNEIFORM SIGN MUSH CROSSING MUSH;CUNEIFORM SIGN MUSH3;CUNEIFORM SIGN MUSH3 TIMES A
CUNEIFORM SIGN MUSH3 TIMES A PLUS DI;CUNEIFORM SIGN MUSH3 TIMES DI;CUNEIFORM SIGN MUSH3 GUNU
CUNEIFORM SIGN NA;CUNEIFORM SIGN NA2;CUNEIFORM SIGN NAGA;CUNEIFORM SIGN NAGA INVERTED
CUNEIFORM SIGN NAGA TIMES SHU TENU;CUNEIFORM SIGN NAGA OPPOSING NAGA;CUNEIFORM SIGN NAGAR
CUNEIFORM SIGN NAM NUTILLU;CUNEIFORM SIGN NAM;CUNEIFORM SIGN NAM2;CUNEIFORM SIGN NE
CUNEIFORM SIGN NE TIMES A;CUNEIFORM SIGN NE TIMES UD;CUNEIFORM SIGN NE SHESHIG;CUNEIFORM SIGN NI
CUNEIFORM SIGN NI TIMES E;CUNEIFORM SIGN NI2;CUNEIFORM SIGN NIM
CUNEIFORM SIGN NIM TIMES GAN2 TENU;CUNEIFORM SIGN NIM TIMES GAR PLUS GAN2 TENU
CUNEIFORM SIGN NINDA2;CUNEIFORM SIGN NINDA2 TIMES AN;CUNEIFORM SIGN NINDA2 TIMES ASH
CUNEIFORM SIGN NINDA2 TIMES ASH PLUS ASH;CUNEIFORM SIGN NINDA2 TIMES GUD
CUNEIFORM SIGN NINDA2 TIMES ME PLUS GAN2 TENU;CUNEIFORM SIGN NINDA2 TIMES NE
CUNEIFORM SIGN NINDA2 TIMES NUN;CUNEIFORM SIGN NINDA2 TIMES SHE
CUNEIFORM SIGN NINDA2 TIMES SHE PLUS A AN;CUNEIFORM SIGN NINDA2 TIMES SHE PLUS ASH
CUNEIFORM SIGN NINDA2 TIMES SHE PLUS ASH PLUS ASH;CUNEIFORM SIGN NINDA2 TIMES U2 PLUS ASH
CUNEIFORM SIGN NINDA2 TIMES USH;CUNEIFORM SIGN NISAG;CUNEIFORM SIGN NU;CUNEIFORM SIGN NU11
CUNEIFORM SIGN NUN;CUNEIFORM SIGN NUN LAGAR TIMES GAR;CUNEIFORM SIGN NUN LAGAR TIMES MASH
CUNEIFORM SIGN NUN LAGAR TIMES SAL;CUNEIFORM SIGN NUN LAGAR TIMES SAL OVER NUN LAGAR TIMES SAL
CUNEIFORM SIGN NUN LAGAR TIMES USH;CUNEIFORM SIGN NUN TENU;CUNEIFORM SIGN NUN OVER NUN
CUNEIFORM SIGN NUN CROSSING NUN;CUNEIFORM SIGN NUN CROSSING NUN LAGAR OVER LAGAR
CUNEIFORM SIGN NUNUZ;CUNEIFORM SIGN NUNUZ AB2 TIMES ASHGAB;CUNEIFORM SIGN NUNUZ AB2 TIMES BI
CUNEIFORM SIGN NUNUZ AB2 TIMES DUG;CUNEIFORM SIGN NUNUZ AB2 TIMES GUD
CUNEIFORM SIGN NUNUZ AB2 TIMES IGI GUNU;CUNEIFORM SIGN NUNUZ AB2 TIMES KAD3
CUNEIFORM SIGN NUNUZ AB2 TIMES LA;CUNEIFORM SIGN NUNUZ AB2 TIMES NE
CUNEIFORM SIGN NUNUZ AB2 TIMES SILA3;CUNEIFORM SIGN NUNUZ AB2 TIMES U2
CUNEIFORM SIGN NUNUZ KISIM5 TIMES BI;CUNEIFORM SIGN NUNUZ KISIM5 TIMES BI U;CUNEIFORM SIGN PA
CUNEIFORM SIGN PAD;CUNEIFORM SIGN PAN;CUNEIFORM SIGN PAP;CUNEIFORM SIGN PESH2;CUNEIFORM SIGN PI
CUNEIFORM SIGN PI TIMES A;CUNEIFORM SIGN PI TIMES AB;CUNEIFORM SIGN PI TIMES BI
CUNEIFORM SIGN PI TIMES BU;CUNEIFORM SIGN PI TIMES E;CUNEIFORM SIGN PI TIMES I
CUNEIFORM SIGN PI TIMES IB;CUNEIFORM SIGN PI TIMES U;CUNEIFORM SIGN PI TIMES U2
CUNEIFORM SIGN PI CROSSING PI;CUNEIFORM SIGN PIRIG;CUNEIFORM SIGN PIRIG TIMES KAL
CUNEIFORM SIGN PIRIG TIMES UD;CUNEIFORM SIGN PIRIG TIMES ZA;CUNEIFORM SIGN PIRIG OPPOSING PIRIG
CUNEIFORM SIGN RA;CUNEIFORM SIGN RAB;CUNEIFORM SIGN RI;CUNEIFORM SIGN RU;CUNEIFORM SIGN SA
CUNEIFORM SIGN SAG NUTILLU;CUNEIFORM SIGN SAG;CUNEIFORM SIGN SAG TIMES A
CUNEIFORM SIGN SAG TIMES DU;CUNEIFORM SIGN SAG TIMES DUB;CUNEIFORM SIGN SAG TIMES HA
CUNEIFORM SIGN SAG TIMES KAK;CUNEIFORM SIGN SAG TIMES KUR;CUNEIFORM SIGN SAG TIMES LUM
CUNEIFORM SIGN SAG TIMES MI;CUNEIFORM SIGN SAG TIMES NUN;CUNEIFORM SIGN SAG TIMES SAL
CUNEIFORM SIGN SAG TIMES SHID;CUNEIFORM SIGN SAG TIMES TAB;CUNEIFORM SIGN SAG TIMES U2
CUNEIFORM SIGN SAG TIMES UB;CUNEIFORM SIGN SAG TIMES UM;CUNEIFORM SIGN SAG TIMES UR
CUNEIFORM SIGN SAG TIMES USH;CUNEIFORM SIGN SAG OVER SAG;CUNEIFORM SIGN SAG GUNU
CUNEIFORM SIGN SAL;CUNEIFORM SIGN SAL LAGAB TIMES ASH2;CUNEIFORM SIGN SANGA2;CUNEIFORM SIGN SAR
CUNEIFORM SIGN SHA;CUNEIFORM SIGN SHA3;CUNEIFORM SIGN SHA3 TIMES A;CUNEIFORM SIGN SHA3 TIMES BAD
CUNEIFORM SIGN SHA3 TIMES GISH;CUNEIFORM SIGN SHA3 TIMES NE;CUNEIFORM SIGN SHA3 TIMES SHU2
CUNEIFORM SIGN SHA3 TIMES TUR;CUNEIFORM SIGN SHA3 TIMES U;CUNEIFORM SIGN SHA3 TIMES U PLUS A
CUNEIFORM SIGN SHA6;CUNEIFORM SIGN SHAB6;CUNEIFORM SIGN SHAR2;CUNEIFORM SIGN SHE
CUNEIFORM SIGN SHE HU;CUNEIFORM SIGN SHE OVER SHE GAD OVER GAD GAR OVER GAR
CUNEIFORM SIGN SHE OVER SHE TAB OVER TAB GAR OVER GAR;CUNEIFORM SIGN SHEG9;CUNEIFORM SIGN SHEN
CUNEIFORM SIGN SHESH;CUNEIFORM SIGN SHESH2;CUNEIFORM SIGN SHESHLAM;CUNEIFORM SIGN SHID
CUNEIFORM SIGN SHID TIMES A;CUNEIFORM SIGN SHID TIMES IM;CUNEIFORM SIGN SHIM
CUNEIFORM SIGN SHIM TIMES A;CUNEIFORM SIGN SHIM TIMES BAL;CUNEIFORM SIGN SHIM TIMES BULUG
CUNEIFORM SIGN SHIM TIMES DIN;CUNEIFORM SIGN SHIM TIMES GAR;CUNEIFORM SIGN SHIM TIMES IGI
CUNEIFORM SIGN SHIM TIMES IGI GUNU;CUNEIFORM SIGN SHIM TIMES KUSHU2;CUNEIFORM SIGN SHIM TIMES LUL
CUNEIFORM SIGN SHIM TIMES MUG;CUNEIFORM SIGN SHIM TIMES SAL;CUNEIFORM SIGN SHINIG
CUNEIFORM SIGN SHIR;CUNEIFORM SIGN SHIR TENU;CUNEIFORM SIGN SHIR OVER SHIR BUR OVER BUR
CUNEIFORM SIGN SHITA;CUNEIFORM SIGN SHU;CUNEIFORM SIGN SHU OVER INVERTED SHU;CUNEIFORM SIGN SHU2
CUNEIFORM SIGN SHUBUR;CUNEIFORM SIGN SI;CUNEIFORM SIGN SI GUNU;CUNEIFORM SIGN SIG
CUNEIFORM SIGN SIG4;CUNEIFORM SIGN SIG4 OVER SIG4 SHU2;CUNEIFORM SIGN SIK2;CUNEIFORM SIGN SILA3
CUNEIFORM SIGN SU;CUNEIFORM SIGN SU OVER SU;CUNEIFORM SIGN SUD;CUNEIFORM SIGN SUD2
CUNEIFORM SIGN SUHUR;CUNEIFORM SIGN SUM;CUNEIFORM SIGN SUMASH;CUNEIFORM SIGN SUR
CUNEIFORM SIGN SUR9;CUNEIFORM SIGN TA;CUNEIFORM SIGN TA ASTERISK;CUNEIFORM SIGN TA TIMES HI
CUNEIFORM SIGN TA TIMES MI;CUNEIFORM SIGN TA GUNU;CUNEIFORM SIGN TAB
CUNEIFORM SIGN TAB OVER TAB NI OVER NI DISH OVER DISH;CUNEIFORM SIGN TAB SQUARED
CUNEIFORM SIGN TAG;CUNEIFORM SIGN TAG TIMES BI;CUNEIFORM SIGN TAG TIMES GUD
CUNEIFORM SIGN TAG TIMES SHE;CUNEIFORM SIGN TAG TIMES SHU;CUNEIFORM SIGN TAG TIMES TUG2
CUNEIFORM SIGN TAG TIMES UD;CUNEIFORM SIGN TAK4;CUNEIFORM SIGN TAR;CUNEIFORM SIGN TE
CUNEIFORM SIGN TE GUNU;CUNEIFORM SIGN TI;CUNEIFORM SIGN TI TENU;CUNEIFORM SIGN TIL
CUNEIFORM SIGN TIR;CUNEIFORM SIGN TIR TIMES TAK4;CUNEIFORM SIGN TIR OVER TIR
CUNEIFORM SIGN TIR OVER TIR GAD OVER GAD GAR OVER GAR;CUNEIFORM SIGN TU;CUNEIFORM SIGN TUG2
CUNEIFORM SIGN TUK;CUNEIFORM SIGN TUM;CUNEIFORM SIGN TUR;CUNEIFORM SIGN TUR OVER TUR ZA OVER ZA
CUNEIFORM SIGN U;CUNEIFORM SIGN U GUD;CUNEIFORM SIGN U U U
CUNEIFORM SIGN U OVER U PA OVER PA GAR OVER GAR;CUNEIFORM SIGN U OVER U SUR OVER SUR
CUNEIFORM SIGN U OVER U U REVERSED OVER U REVERSED;CUNEIFORM SIGN U2;CUNEIFORM SIGN UB
CUNEIFORM SIGN UD;CUNEIFORM SIGN UD KUSHU2;CUNEIFORM SIGN UD TIMES BAD;CUNEIFORM SIGN UD TIMES MI
CUNEIFORM SIGN UD TIMES U PLUS U PLUS U;CUNEIFORM SIGN UD TIMES U PLUS U PLUS U GUNU
CUNEIFORM SIGN UD GUNU;CUNEIFORM SIGN UD SHESHIG;CUNEIFORM SIGN UD SHESHIG TIMES BAD
CUNEIFORM SIGN UDUG;CUNEIFORM SIGN UM;CUNEIFORM SIGN UM TIMES LAGAB
CUNEIFORM SIGN UM TIMES ME PLUS DA;CUNEIFORM SIGN UM TIMES SHA3;CUNEIFORM SIGN UM TIMES U
CUNEIFORM SIGN UMBIN;CUNEIFORM SIGN UMUM;CUNEIFORM SIGN UMUM TIMES KASKAL
CUNEIFORM SIGN UMUM TIMES PA;CUNEIFORM SIGN UN;CUNEIFORM SIGN UN GUNU;CUNEIFORM SIGN UR
CUNEIFORM SIGN UR CROSSING UR;CUNEIFORM SIGN UR SHESHIG;CUNEIFORM SIGN UR2
CUNEIFORM SIGN UR2 TIMES A PLUS HA;CUNEIFORM SIGN UR2 TIMES A PLUS NA;CUNEIFORM SIGN UR2 TIMES AL
CUNEIFORM SIGN UR2 TIMES HA;CUNEIFORM SIGN UR2 TIMES NUN;CUNEIFORM SIGN UR2 TIMES U2
CUNEIFORM SIGN UR2 TIMES U2 PLUS ASH;CUNEIFORM SIGN UR2 TIMES U2 PLUS BI;CUNEIFORM SIGN UR4
CUNEIFORM SIGN URI;CUNEIFORM SIGN URI3;CUNEIFORM SIGN URU;CUNEIFORM SIGN URU TIMES A
CUNEIFORM SIGN URU TIMES ASHGAB;CUNEIFORM SIGN URU TIMES BAR;CUNEIFORM SIGN URU TIMES DUN
CUNEIFORM SIGN URU TIMES GA;CUNEIFORM SIGN URU TIMES GAL;CUNEIFORM SIGN URU TIMES GAN2 TENU
CUNEIFORM SIGN URU TIMES GAR;CUNEIFORM SIGN URU TIMES GU;CUNEIFORM SIGN URU TIMES HA
CUNEIFORM SIGN URU TIMES IGI;CUNEIFORM SIGN URU TIMES IM;CUNEIFORM SIGN URU TIMES ISH
CUNEIFORM SIGN URU TIMES KI;CUNEIFORM SIGN URU TIMES LUM;CUNEIFORM SIGN URU TIMES MIN
CUNEIFORM SIGN URU TIMES PA;CUNEIFORM SIGN URU TIMES SHE;CUNEIFORM SIGN URU TIMES SIG4
CUNEIFORM SIGN URU TIMES TU;CUNEIFORM SIGN URU TIMES U PLUS GUD;CUNEIFORM SIGN URU TIMES UD
CUNEIFORM SIGN URU TIMES URUDA;CUNEIFORM SIGN URUDA;CUNEIFORM SIGN URUDA TIMES U
CUNEIFORM SIGN USH;CUNEIFORM SIGN USH TIMES A;CUNEIFORM SIGN USH TIMES KU
CUNEIFORM SIGN USH TIMES KUR;CUNEIFORM SIGN USH TIMES TAK4;CUNEIFORM SIGN USHX
CUNEIFORM SIGN USH2;CUNEIFORM SIGN USHUMX;CUNEIFORM SIGN UTUKI;CUNEIFORM SIGN UZ3
CUNEIFORM SIGN UZ3 TIMES KASKAL;CUNEIFORM SIGN UZU;CUNEIFORM SIGN ZA;CUNEIFORM SIGN ZA TENU
CUNEIFORM SIGN ZA SQUARED TIMES KUR;CUNEIFORM SIGN ZAG;CUNEIFORM SIGN ZAMX;CUNEIFORM SIGN ZE2
CUNEIFORM SIGN ZI;CUNEIFORM SIGN ZI OVER ZI;CUNEIFORM SIGN ZI3;CUNEIFORM SIGN ZIB
CUNEIFORM SIGN ZIB KABA TENU;CUNEIFORM SIGN ZIG;CUNEIFORM SIGN ZIZ2;CUNEIFORM SIGN ZU
CUNEIFORM SIGN ZU5;CUNEIFORM SIGN ZU5 TIMES A;CUNEIFORM SIGN ZUBUR;CUNEIFORM SIGN ZUM
CUNEIFORM SIGN KAP ELAMITE;CUNEIFORM SIGN AB TIMES NUN;CUNEIFORM SIGN AB2 TIMES A
CUNEIFORM SIGN AMAR TIMES KUG;CUNEIFORM SIGN DAG KISIM5 TIMES U2 PLUS MASH;CUNEIFORM SIGN DAG3
CUNEIFORM SIGN DISH PLUS SHU;CUNEIFORM SIGN DUB TIMES SHE;CUNEIFORM SIGN EZEN TIMES GUD
CUNEIFORM SIGN EZEN TIMES SHE;CUNEIFORM SIGN GA2 TIMES AN PLUS KAK PLUS A
CUNEIFORM SIGN GA2 TIMES ASH2;CUNEIFORM SIGN GE22;CUNEIFORM SIGN GIG;CUNEIFORM SIGN HUSH
CUNEIFORM SIGN KA TIMES ANSHE;CUNEIFORM SIGN KA TIMES ASH3;CUNEIFORM SIGN KA TIMES GISH
CUNEIFORM SIGN KA TIMES GUD;CUNEIFORM SIGN KA TIMES HI TIMES ASH2;CUNEIFORM SIGN KA TIMES LUM
CUNEIFORM SIGN KA TIMES PA;CUNEIFORM SIGN KA TIMES SHUL;CUNEIFORM SIGN KA TIMES TU
CUNEIFORM SIGN KA TIMES UR2;CUNEIFORM SIGN LAGAB TIMES GI;CUNEIFORM SIGN LU2 SHESHIG TIMES BAD
CUNEIFORM SIGN LU2 TIMES ESH2 PLUS LAL;CUNEIFORM SIGN LU2 TIMES SHU;CUNEIFORM SIGN MESH
CUNEIFORM SIGN MUSH3 TIMES ZA;CUNEIFORM SIGN NA4;CUNEIFORM SIGN NIN;CUNEIFORM SIGN NIN9
CUNEIFORM SIGN NINDA2 TIMES BAL;CUNEIFORM SIGN NINDA2 TIMES GI
CUNEIFORM SIGN NU11 ROTATED NINETY DEGREES;CUNEIFORM SIGN PESH2 ASTERISK;CUNEIFORM SIGN PIR2
CUNEIFORM SIGN SAG TIMES IGI GUNU;CUNEIFORM SIGN TI2;CUNEIFORM SIGN UM TIMES ME
CUNEIFORM SIGN U U"),
  (0x12400, "CUNEIFORM NUMERIC SIGN TWO ASH;CUNEIFORM NUMERIC SIGN THREE ASH
CUNEIFORM NUMERIC SIGN FOUR ASH;CUNEIFORM NUMERIC SIGN FIVE ASH;CUNEIFORM NUMERIC SIGN SIX ASH
CUNEIFORM NUMERIC SIGN SEVEN ASH;CUNEIFORM NUMERIC SIGN EIGHT ASH;CUNEIFORM NUMERIC SIGN NINE ASH
CUNEIFORM NUMERIC SIGN THREE DISH;CUNEIFORM NUMERIC SIGN FOUR DISH
CUNEIFORM NUMERIC SIGN FIVE DISH;CUNEIFORM NUMERIC SIGN SIX DISH
CUNEIFORM NUMERIC SIGN SEVEN DISH;CUNEIFORM NUMERIC SIGN EIGHT DISH
CUNEIFORM NUMERIC SIGN NINE DISH;CUNEIFORM NUMERIC SIGN FOUR U;CUNEIFORM NUMERIC SIGN FIVE U
CUNEIFORM NUMERIC SIGN SIX U;CUNEIFORM NUMERIC SIGN SEVEN U;CUNEIFORM NUMERIC SIGN EIGHT U
CUNEIFORM NUMERIC SIGN NINE U;CUNEIFORM NUMERIC SIGN ONE GESH2;CUNEIFORM NUMERIC SIGN TWO GESH2
CUNEIFORM NUMERIC SIGN THREE GESH2;CUNEIFORM NUMERIC SIGN FOUR GESH2
CUNEIFORM NUMERIC SIGN FIVE GESH2;CUNEIFORM NUMERIC SIGN SIX GESH2
CUNEIFORM NUMERIC SIGN SEVEN GESH2;CUNEIFORM NUMERIC SIGN EIGHT GESH2
CUNEIFORM NUMERIC SIGN NINE GESH2;CUNEIFORM NUMERIC SIGN ONE GESHU
CUNEIFORM NUMERIC SIGN TWO GESHU;CUNEIFORM NUMERIC SIGN THREE GESHU
CUNEIFORM NUMERIC SIGN FOUR GESHU;CUNEIFORM NUMERIC SIGN FIVE GESHU
CUNEIFORM NUMERIC SIGN TWO SHAR2;CUNEIFORM NUMERIC SIGN THREE SHAR2
CUNEIFORM NUMERIC SIGN THREE SHAR2 VARIANT FORM;CUNEIFORM NUMERIC SIGN FOUR SHAR2
CUNEIFORM NUMERIC SIGN FIVE SHAR2;CUNEIFORM NUMERIC SIGN SIX SHAR2
CUNEIFORM NUMERIC SIGN SEVEN SHAR2;CUNEIFORM NUMERIC SIGN EIGHT SHAR2
CUNEIFORM NUMERIC SIGN NINE SHAR2;CUNEIFORM NUMERIC SIGN ONE SHARU
CUNEIFORM NUMERIC SIGN TWO SHARU;CUNEIFORM NUMERIC SIGN THREE SHARU
CUNEIFORM NUMERIC SIGN THREE SHARU VARIANT FORM;CUNEIFORM NUMERIC SIGN FOUR SHARU
CUNEIFORM NUMERIC SIGN FIVE SHARU;CUNEIFORM NUMERIC SIGN SHAR2 TIMES GAL PLUS DISH
CUNEIFORM NUMERIC SIGN SHAR2 TIMES GAL PLUS MIN;CUNEIFORM NUMERIC SIGN ONE BURU
CUNEIFORM NUMERIC SIGN TWO BURU;CUNEIFORM NUMERIC SIGN THREE BURU
CUNEIFORM NUMERIC SIGN THREE BURU VARIANT FORM;CUNEIFORM NUMERIC SIGN FOUR BURU
CUNEIFORM NUMERIC SIGN FIVE BURU;CUNEIFORM NUMERIC SIGN THREE VARIANT FORM ESH16
CUNEIFORM NUMERIC SIGN THREE VARIANT FORM ESH21;CUNEIFORM NUMERIC SIGN FOUR VARIANT FORM LIMMU
CUNEIFORM NUMERIC SIGN FOUR VARIANT FORM LIMMU4;CUNEIFORM NUMERIC SIGN FOUR VARIANT FORM LIMMU A
CUNEIFORM NUMERIC SIGN FOUR VARIANT FORM LIMMU B;CUNEIFORM NUMERIC SIGN SIX VARIANT FORM ASH9
CUNEIFORM NUMERIC SIGN SEVEN VARIANT FORM IMIN3;CUNEIFORM NUMERIC SIGN SEVEN VARIANT FORM IMIN A
CUNEIFORM NUMERIC SIGN SEVEN VARIANT FORM IMIN B;CUNEIFORM NUMERIC SIGN EIGHT VARIANT FORM USSU
CUNEIFORM NUMERIC SIGN EIGHT VARIANT FORM USSU3;CUNEIFORM NUMERIC SIGN NINE VARIANT FORM ILIMMU
CUNEIFORM NUMERIC SIGN NINE VARIANT FORM ILIMMU3;CUNEIFORM NUMERIC SIGN NINE VARIANT FORM ILIMMU4
CUNEIFORM NUMERIC SIGN NINE VARIANT FORM ILIMMU A;CUNEIFORM NUMERIC SIGN TWO ASH TENU
CUNEIFORM NUMERIC SIGN THREE ASH TENU;CUNEIFORM NUMERIC SIGN FOUR ASH TENU
CUNEIFORM NUMERIC SIGN FIVE ASH TENU;CUNEIFORM NUMERIC SIGN SIX ASH TENU
CUNEIFORM NUMERIC SIGN ONE BAN2;CUNEIFORM NUMERIC SIGN TWO BAN2;CUNEIFORM NUMERIC SIGN THREE BAN2
CUNEIFORM NUMERIC SIGN FOUR BAN2;CUNEIFORM NUMERIC SIGN FOUR BAN2 VARIANT FORM
CUNEIFORM NUMERIC SIGN FIVE BAN2;CUNEIFORM NUMERIC SIGN FIVE BAN2 VARIANT FORM
CUNEIFORM NUMERIC SIGN NIGIDAMIN;CUNEIFORM NUMERIC SIGN NIGIDAESH
CUNEIFORM NUMERIC SIGN ONE ESHE3;CUNEIFORM NUMERIC SIGN TWO ESHE3
CUNEIFORM NUMERIC SIGN ONE THIRD DISH;CUNEIFORM NUMERIC SIGN TWO THIRDS DISH
CUNEIFORM NUMERIC SIGN FIVE SIXTHS DISH;CUNEIFORM NUMERIC SIGN ONE THIRD VARIANT FORM A
CUNEIFORM NUMERIC SIGN TWO THIRDS VARIANT FORM A;CUNEIFORM NUMERIC SIGN ONE EIGHTH ASH
CUNEIFORM NUMERIC SIGN ONE QUARTER ASH;CUNEIFORM NUMERIC SIGN OLD ASSYRIAN ONE SIXTH
CUNEIFORM NUMERIC SIGN OLD ASSYRIAN ONE QUARTER;CUNEIFORM NUMERIC SIGN ONE QUARTER GUR
CUNEIFORM NUMERIC SIGN ONE HALF GUR;CUNEIFORM NUMERIC SIGN ELAMITE ONE THIRD
CUNEIFORM NUMERIC SIGN ELAMITE TWO THIRDS;CUNEIFORM NUMERIC SIGN ELAMITE FORTY
CUNEIFORM NUMERIC SIGN ELAMITE FIFTY;CUNEIFORM NUMERIC SIGN FOUR U VARIANT FORM
CUNEIFORM NUMERIC SIGN FIVE U VARIANT FORM;CUNEIFORM NUMERIC SIGN SIX U VARIANT FORM
CUNEIFORM NUMERIC SIGN SEVEN U VARIANT FORM;CUNEIFORM NUMERIC SIGN EIGHT U VARIANT FORM
CUNEIFORM NUMERIC SIGN NINE U VARIANT FORM"),
  (0x12470, "CUNEIFORM PUNCTUATION SIGN OLD ASSYRIAN WORD DIVIDER
CUNEIFORM PUNCTUATION SIGN VERTICAL COLON;CUNEIFORM PUNCTUATION SIGN DIAGONAL COLON
CUNEIFORM PUNCTUATION SIGN DIAGONAL TRICOLON;CUNEIFORM PUNCTUATION SIGN DIAGONAL QUADCOLON"),
  (0x12480, "CUNEIFORM SIGN AB TIMES NUN TENU;CUNEIFORM SIGN AB TIMES SHU2
CUNEIFORM SIGN AD TIMES ESH2;CUNEIFORM SIGN BAD TIMES DISH TENU;CUNEIFORM SIGN BAHAR2 TIMES AB2
CUNEIFORM SIGN BAHAR2 TIMES NI;CUNEIFORM SIGN BAHAR2 TIMES ZA;CUNEIFORM SIGN BU OVER BU TIMES NA2
CUNEIFORM SIGN DA TIMES TAK4;CUNEIFORM SIGN DAG TIMES KUR;CUNEIFORM SIGN DIM TIMES IGI
CUNEIFORM SIGN DIM TIMES U U U;CUNEIFORM SIGN DIM2 TIMES UD;CUNEIFORM SIGN DUG TIMES ANSHE
CUNEIFORM SIGN DUG TIMES ASH;CUNEIFORM SIGN DUG TIMES ASH AT LEFT;CUNEIFORM SIGN DUG TIMES DIN
CUNEIFORM SIGN DUG TIMES DUN;CUNEIFORM SIGN DUG TIMES ERIN2;CUNEIFORM SIGN DUG TIMES GA
CUNEIFORM SIGN DUG TIMES GI;CUNEIFORM SIGN DUG TIMES GIR2 GUNU;CUNEIFORM SIGN DUG TIMES GISH
CUNEIFORM SIGN DUG TIMES HA;CUNEIFORM SIGN DUG TIMES HI;CUNEIFORM SIGN DUG TIMES IGI GUNU
CUNEIFORM SIGN DUG TIMES KASKAL;CUNEIFORM SIGN DUG TIMES KUR;CUNEIFORM SIGN DUG TIMES KUSHU2
CUNEIFORM SIGN DUG TIMES KUSHU2 PLUS KASKAL;CUNEIFORM SIGN DUG TIMES LAK-020
CUNEIFORM SIGN DUG TIMES LAM;CUNEIFORM SIGN DUG TIMES LAM TIMES KUR
CUNEIFORM SIGN DUG TIMES LUH PLUS GISH;CUNEIFORM SIGN DUG TIMES MASH;CUNEIFORM SIGN DUG TIMES MES
CUNEIFORM SIGN DUG TIMES MI;CUNEIFORM SIGN DUG TIMES NI;CUNEIFORM SIGN DUG TIMES PI
CUNEIFORM SIGN DUG TIMES SHE;CUNEIFORM SIGN DUG TIMES SI GUNU;CUNEIFORM SIGN E2 TIMES KUR
CUNEIFORM SIGN E2 TIMES PAP;CUNEIFORM SIGN ERIN2 X;CUNEIFORM SIGN ESH2 CROSSING ESH2
CUNEIFORM SIGN EZEN SHESHIG TIMES ASH;CUNEIFORM SIGN EZEN SHESHIG TIMES HI
CUNEIFORM SIGN EZEN SHESHIG TIMES IGI GUNU;CUNEIFORM SIGN EZEN SHESHIG TIMES LA
CUNEIFORM SIGN EZEN SHESHIG TIMES LAL;CUNEIFORM SIGN EZEN SHESHIG TIMES ME
CUNEIFORM SIGN EZEN SHESHIG TIMES MES;CUNEIFORM SIGN EZEN SHESHIG TIMES SU
CUNEIFORM SIGN EZEN TIMES SU;CUNEIFORM SIGN GA2 TIMES BAHAR2;CUNEIFORM SIGN GA2 TIMES DIM GUNU
CUNEIFORM SIGN GA2 TIMES DUG TIMES IGI GUNU;CUNEIFORM SIGN GA2 TIMES DUG TIMES KASKAL
CUNEIFORM SIGN GA2 TIMES EREN;CUNEIFORM SIGN GA2 TIMES GA;CUNEIFORM SIGN GA2 TIMES GAR PLUS DI
CUNEIFORM SIGN GA2 TIMES GAR PLUS NE;CUNEIFORM SIGN GA2 TIMES HA PLUS A
CUNEIFORM SIGN GA2 TIMES KUSHU2 PLUS KASKAL;CUNEIFORM SIGN GA2 TIMES LAM
CUNEIFORM SIGN GA2 TIMES LAM TIMES KUR;CUNEIFORM SIGN GA2 TIMES LUH;CUNEIFORM SIGN GA2 TIMES MUSH
CUNEIFORM SIGN GA2 TIMES NE;CUNEIFORM SIGN GA2 TIMES NE PLUS E2
CUNEIFORM SIGN GA2 TIMES NE PLUS GI;CUNEIFORM SIGN GA2 TIMES SHIM;CUNEIFORM SIGN GA2 TIMES ZIZ2
CUNEIFORM SIGN GABA ROTATED NINETY DEGREES;CUNEIFORM SIGN GESHTIN TIMES U
CUNEIFORM SIGN GISH TIMES GISH CROSSING GISH;CUNEIFORM SIGN GU2 TIMES IGI GUNU
CUNEIFORM SIGN GUD PLUS GISH TIMES TAK4;CUNEIFORM SIGN HA TENU GUNU
CUNEIFORM SIGN HI TIMES ASH OVER HI TIMES ASH;CUNEIFORM SIGN KA TIMES BU
CUNEIFORM SIGN KA TIMES KA;CUNEIFORM SIGN KA TIMES U U U;CUNEIFORM SIGN KA TIMES UR
CUNEIFORM SIGN LAGAB TIMES ZU OVER ZU;CUNEIFORM SIGN LAK-003;CUNEIFORM SIGN LAK-021
CUNEIFORM SIGN LAK-025;CUNEIFORM SIGN LAK-030;CUNEIFORM SIGN LAK-050;CUNEIFORM SIGN LAK-051
CUNEIFORM SIGN LAK-062;CUNEIFORM SIGN LAK-079 OVER LAK-079 GUNU;CUNEIFORM SIGN LAK-080
CUNEIFORM SIGN LAK-081 OVER LAK-081;CUNEIFORM SIGN LAK-092;CUNEIFORM SIGN LAK-130
CUNEIFORM SIGN LAK-142;CUNEIFORM SIGN LAK-210;CUNEIFORM SIGN LAK-219;CUNEIFORM SIGN LAK-220
CUNEIFORM SIGN LAK-225;CUNEIFORM SIGN LAK-228;CUNEIFORM SIGN LAK-238;CUNEIFORM SIGN LAK-265
CUNEIFORM SIGN LAK-266;CUNEIFORM SIGN LAK-343;CUNEIFORM SIGN LAK-347;CUNEIFORM SIGN LAK-348
CUNEIFORM SIGN LAK-383;CUNEIFORM SIGN LAK-384;CUNEIFORM SIGN LAK-390;CUNEIFORM SIGN LAK-441
CUNEIFORM SIGN LAK-449;CUNEIFORM SIGN LAK-449 TIMES GU;CUNEIFORM SIGN LAK-449 TIMES IGI
CUNEIFORM SIGN LAK-449 TIMES PAP PLUS LU3;CUNEIFORM SIGN LAK-449 TIMES PAP PLUS PAP PLUS LU3
CUNEIFORM SIGN LAK-449 TIMES U2 PLUS BA;CUNEIFORM SIGN LAK-450;CUNEIFORM SIGN LAK-457
CUNEIFORM SIGN LAK-470;CUNEIFORM SIGN LAK-483;CUNEIFORM SIGN LAK-490;CUNEIFORM SIGN LAK-492
CUNEIFORM SIGN LAK-493;CUNEIFORM SIGN LAK-495;CUNEIFORM SIGN LAK-550;CUNEIFORM SIGN LAK-608
CUNEIFORM SIGN LAK-617;CUNEIFORM SIGN LAK-617 TIMES ASH;CUNEIFORM SIGN LAK-617 TIMES BAD
CUNEIFORM SIGN LAK-617 TIMES DUN3 GUNU GUNU;CUNEIFORM SIGN LAK-617 TIMES KU3
CUNEIFORM SIGN LAK-617 TIMES LA;CUNEIFORM SIGN LAK-617 TIMES TAR;CUNEIFORM SIGN LAK-617 TIMES TE
CUNEIFORM SIGN LAK-617 TIMES U2;CUNEIFORM SIGN LAK-617 TIMES UD
CUNEIFORM SIGN LAK-617 TIMES URUDA;CUNEIFORM SIGN LAK-636;CUNEIFORM SIGN LAK-648
CUNEIFORM SIGN LAK-648 TIMES DUB;CUNEIFORM SIGN LAK-648 TIMES GA;CUNEIFORM SIGN LAK-648 TIMES IGI
CUNEIFORM SIGN LAK-648 TIMES IGI GUNU;CUNEIFORM SIGN LAK-648 TIMES NI
CUNEIFORM SIGN LAK-648 TIMES PAP PLUS PAP PLUS LU3;CUNEIFORM SIGN LAK-648 TIMES SHESH PLUS KI
CUNEIFORM SIGN LAK-648 TIMES UD;CUNEIFORM SIGN LAK-648 TIMES URUDA;CUNEIFORM SIGN LAK-724
CUNEIFORM SIGN LAK-749;CUNEIFORM SIGN LU2 GUNU TIMES ASH;CUNEIFORM SIGN LU2 TIMES DISH
CUNEIFORM SIGN LU2 TIMES HAL;CUNEIFORM SIGN LU2 TIMES PAP
CUNEIFORM SIGN LU2 TIMES PAP PLUS PAP PLUS LU3;CUNEIFORM SIGN LU2 TIMES TAK4
CUNEIFORM SIGN MI PLUS ZA7;CUNEIFORM SIGN MUSH OVER MUSH TIMES GA
CUNEIFORM SIGN MUSH OVER MUSH TIMES KAK;CUNEIFORM SIGN NINDA2 TIMES DIM GUNU
CUNEIFORM SIGN NINDA2 TIMES GISH;CUNEIFORM SIGN NINDA2 TIMES GUL;CUNEIFORM SIGN NINDA2 TIMES HI
CUNEIFORM SIGN NINDA2 TIMES KESH2;CUNEIFORM SIGN NINDA2 TIMES LAK-050
CUNEIFORM SIGN NINDA2 TIMES MASH;CUNEIFORM SIGN NINDA2 TIMES PAP PLUS PAP
CUNEIFORM SIGN NINDA2 TIMES U;CUNEIFORM SIGN NINDA2 TIMES U PLUS U
CUNEIFORM SIGN NINDA2 TIMES URUDA;CUNEIFORM SIGN SAG GUNU TIMES HA;CUNEIFORM SIGN SAG TIMES EN
CUNEIFORM SIGN SAG TIMES SHE AT LEFT;CUNEIFORM SIGN SAG TIMES TAK4;CUNEIFORM SIGN SHA6 TENU
CUNEIFORM SIGN SHE OVER SHE;CUNEIFORM SIGN SHE PLUS HUB2;CUNEIFORM SIGN SHE PLUS NAM2
CUNEIFORM SIGN SHE PLUS SAR;CUNEIFORM SIGN SHU2 PLUS DUG TIMES NI
CUNEIFORM SIGN SHU2 PLUS E2 TIMES AN;CUNEIFORM SIGN SI TIMES TAK4;CUNEIFORM SIGN TAK4 PLUS SAG
CUNEIFORM SIGN TUM TIMES GAN2 TENU;CUNEIFORM SIGN TUM TIMES THREE DISH
CUNEIFORM SIGN UR2 INVERTED;CUNEIFORM SIGN UR2 TIMES UD;CUNEIFORM SIGN URU TIMES DARA3
CUNEIFORM SIGN URU TIMES LAK-668;CUNEIFORM SIGN URU TIMES LU3;CUNEIFORM SIGN ZA7
CUNEIFORM SIGN ZU OVER ZU PLUS SAR;CUNEIFORM SIGN ZU5 TIMES THREE DISH TENU"),
  (0x12f90, "CYPRO-MINOAN SIGN CM001;CYPRO-MINOAN SIGN CM002;CYPRO-MINOAN SIGN CM004
CYPRO-MINOAN SIGN CM005;CYPRO-MINOAN SIGN CM006;CYPRO-MINOAN SIGN CM007;CYPRO-MINOAN SIGN CM008
CYPRO-MINOAN SIGN CM009;CYPRO-MINOAN SIGN CM010;CYPRO-MINOAN SIGN CM011;CYPRO-MINOAN SIGN CM012
CYPRO-MINOAN SIGN CM012B;CYPRO-MINOAN SIGN CM013;CYPRO-MINOAN SIGN CM015;CYPRO-MINOAN SIGN CM017
CYPRO-MINOAN SIGN CM019;CYPRO-MINOAN SIGN CM021;CYPRO-MINOAN SIGN CM023;CYPRO-MINOAN SIGN CM024
CYPRO-MINOAN SIGN CM025;CYPRO-MINOAN SIGN CM026;CYPRO-MINOAN SIGN CM027;CYPRO-MINOAN SIGN CM028
CYPRO-MINOAN SIGN CM029;CYPRO-MINOAN SIGN CM030;CYPRO-MINOAN SIGN CM033;CYPRO-MINOAN SIGN CM034
CYPRO-MINOAN SIGN CM035;CYPRO-MINOAN SIGN CM036;CYPRO-MINOAN SIGN CM037;CYPRO-MINOAN SIGN CM038
CYPRO-MINOAN SIGN CM039;CYPRO-MINOAN SIGN CM040;CYPRO-MINOAN SIGN CM041;CYPRO-MINOAN SIGN CM044
CYPRO-MINOAN SIGN CM046;CYPRO-MINOAN SIGN CM047;CYPRO-MINOAN SIGN CM049;CYPRO-MINOAN SIGN CM050
CYPRO-MINOAN SIGN CM051;CYPRO-MINOAN SIGN CM052;CYPRO-MINOAN SIGN CM053;CYPRO-MINOAN SIGN CM054
CYPRO-MINOAN SIGN CM055;CYPRO-MINOAN SIGN CM056;CYPRO-MINOAN SIGN CM058;CYPRO-MINOAN SIGN CM059
CYPRO-MINOAN SIGN CM060;CYPRO-MINOAN SIGN CM061;CYPRO-MINOAN SIGN CM062;CYPRO-MINOAN SIGN CM063
CYPRO-MINOAN SIGN CM064;CYPRO-MINOAN SIGN CM066;CYPRO-MINOAN SIGN CM067;CYPRO-MINOAN SIGN CM068
CYPRO-MINOAN SIGN CM069;CYPRO-MINOAN SIGN CM070;CYPRO-MINOAN SIGN CM071;CYPRO-MINOAN SIGN CM072
CYPRO-MINOAN SIGN CM073;CYPRO-MINOAN SIGN CM074;CYPRO-MINOAN SIGN CM075;CYPRO-MINOAN SIGN CM075B
CYPRO-MINOAN SIGN CM076;CYPRO-MINOAN SIGN CM078;CYPRO-MINOAN SIGN CM079;CYPRO-MINOAN SIGN CM080
CYPRO-MINOAN SIGN CM081;CYPRO-MINOAN SIGN CM082;CYPRO-MINOAN SIGN CM083;CYPRO-MINOAN SIGN CM084
CYPRO-MINOAN SIGN CM085;CYPRO-MINOAN SIGN CM086;CYPRO-MINOAN SIGN CM087;CYPRO-MINOAN SIGN CM088
CYPRO-MINOAN SIGN CM089;CYPRO-MINOAN SIGN CM090;CYPRO-MINOAN SIGN CM091;CYPRO-MINOAN SIGN CM092
CYPRO-MINOAN SIGN CM094;CYPRO-MINOAN SIGN CM095;CYPRO-MINOAN SIGN CM096;CYPRO-MINOAN SIGN CM097
CYPRO-MINOAN SIGN CM098;CYPRO-MINOAN SIGN CM099;CYPRO-MINOAN SIGN CM100;CYPRO-MINOAN SIGN CM101
CYPRO-MINOAN SIGN CM102;CYPRO-MINOAN SIGN CM103;CYPRO-MINOAN SIGN CM104;CYPRO-MINOAN SIGN CM105
CYPRO-MINOAN SIGN CM107;CYPRO-MINOAN SIGN CM108;CYPRO-MINOAN SIGN CM109;CYPRO-MINOAN SIGN CM110
CYPRO-MINOAN SIGN CM112;CYPRO-MINOAN SIGN CM114;CYPRO-MINOAN SIGN CM301;CYPRO-MINOAN SIGN CM302")]

end UrlRouting.Text
