/-!
# Names of characters from U+0F99 to U+1CFA

The names of Unicode 14.  Each entry gives the first of some characters in a row and their
names, one after the other, between semicolons and line ends.
-/

namespace UrlRouting.Text

/-- The names of the characters from U+0F99 to U+1CFA. -/
def namesFrom0F99 : List (Nat × String) := [
  (0xf99, "TIBETAN SUBJOINED LETTER NYA;TIBETAN SUBJOINED LETTER TTA
TIBETAN SUBJOINED LETTER TTHA;TIBETAN SUBJOINED LETTER DDA;TIBETAN SUBJOINED LETTER DDHA
TIBETAN SUBJOINED LETTER NNA;TIBETAN SUBJOINED LETTER TA;TIBETAN SUBJOINED LETTER THA
TIBETAN SUBJOINED LETTER DA;TIBETAN SUBJOINED LETTER DHA;TIBETAN SUBJOINED LETTER NA
TIBETAN SUBJOINED LETTER PA;TIBETAN SUBJOINED LETTER PHA;TIBETAN SUBJOINED LETTER BA
TIBETAN SUBJOINED LETTER BHA;TIBETAN SUBJOINED LETTER MA;TIBETAN SUBJOINED LETTER TSA
TIBETAN SUBJOINED LETTER TSHA;TIBETAN SUBJOINED LETTER DZA;TIBETAN SUBJOINED LETTER DZHA
TIBETAN SUBJOINED LETTER WA;TIBETAN SUBJOINED LETTER ZHA;TIBETAN SUBJOINED LETTER ZA
TIBETAN SUBJOINED LETTER -A;TIBETAN SUBJOINED LETTER YA;TIBETAN SUBJOINED LETTER RA
TIBETAN SUBJOINED LETTER LA;TIBETAN SUBJOINED LETTER SHA;TIBETAN SUBJOINED LETTER SSA
TIBETAN SUBJOINED LETTER SA;TIBETAN SUBJOINED LETTER HA;TIBETAN SUBJOINED LETTER A
TIBETAN SUBJOINED LETTER KSSA;TIBETAN SUBJOINED LETTER FIXED-FORM WA
TIBETAN SUBJOINED LETTER FIXED-FORM YA;TIBETAN SUBJOINED LETTER FIXED-FORM RA"),
  (0xfbe, "TIBETAN KU RU KHA;TIBETAN KU RU KHA BZHI MIG CAN;TIBETAN CANTILLATION SIGN HEAVY BEAT
TIBETAN CANTILLATION SIGN LIGHT BEAT;TIBETAN CANTILLATION SIGN CANG TE-U
TIBETAN CANTILLATION SIGN SBUB -CHAL;TIBETAN SYMBOL DRIL BU;TIBETAN SYMBOL RDO RJE
TIBETAN SYMBOL PADMA GDAN;TIBETAN SYMBOL RDO RJE RGYA GRAM;TIBETAN SYMBOL PHUR PA
TIBETAN SYMBOL NOR BU;TIBETAN SYMBOL NOR BU NYIS -KHYIL;TIBETAN SYMBOL NOR BU GSUM -KHYIL
TIBETAN SYMBOL NOR BU BZHI -KHYIL"),
  (0xfce, "TIBETAN SIGN RDEL NAG RDEL DKAR;TIBETAN SIGN RDEL NAG GSUM
TIBETAN MARK BSKA- SHOG GI MGO RGYAN;TIBETAN MARK MNYAM YIG GI MGO RGYAN;TIBETAN MARK NYIS TSHEG
TIBETAN MARK INITIAL BRDA RNYING YIG MGO MDUN MA;TIBETAN MARK CLOSING BRDA RNYING YIG MGO SGAB MA
RIGHT-FACING SVASTI SIGN;LEFT-FACING SVASTI SIGN;RIGHT-FACING SVASTI SIGN WITH DOTS
LEFT-FACING SVASTI SIGN WITH DOTS;TIBETAN MARK LEADING MCHAN RTAGS
TIBETAN MARK TRAILING MCHAN RTAGS"),
  (0x1000, "MYANMAR LETTER KA;MYANMAR LETTER KHA;MYANMAR LETTER GA;MYANMAR LETTER GHA
MYANMAR LETTER NGA;MYANMAR LETTER CA;MYANMAR LETTER CHA;MYANMAR LETTER JA;MYANMAR LETTER JHA
MYANMAR LETTER NYA;MYANMAR LETTER NNYA;MYANMAR LETTER TTA;MYANMAR LETTER TTHA;MYANMAR LETTER DDA
MYANMAR LETTER DDHA;MYANMAR LETTER NNA;MYANMAR LETTER TA;MYANMAR LETTER THA;MYANMAR LETTER DA
MYANMAR LETTER DHA;MYANMAR LETTER NA;MYANMAR LETTER PA;MYANMAR LETTER PHA;MYANMAR LETTER BA
MYANMAR LETTER BHA;MYANMAR LETTER MA;MYANMAR LETTER YA;MYANMAR LETTER RA;MYANMAR LETTER LA
MYANMAR LETTER WA;MYANMAR LETTER SA;MYANMAR LETTER HA;MYANMAR LETTER LLA;MYANMAR LETTER A
MYANMAR LETTER SHAN A;MYANMAR LETTER I;MYANMAR LETTER II;MYANMAR LETTER U;MYANMAR LETTER UU
MYANMAR LETTER E;MYANMAR LETTER MON E;MYANMAR LETTER O;MYANMAR LETTER AU
MYANMAR VOWEL SIGN TALL AA;MYANMAR VOWEL SIGN AA;MYANMAR VOWEL SIGN I;MYANMAR VOWEL SIGN II
MYANMAR VOWEL SIGN U;MYANMAR VOWEL SIGN UU;MYANMAR VOWEL SIGN E;MYANMAR VOWEL SIGN AI
MYANMAR VOWEL SIGN MON II;MYANMAR VOWEL SIGN MON O;MYANMAR VOWEL SIGN E ABOVE
MYANMAR SIGN ANUSVARA;MYANMAR SIGN DOT BELOW;MYANMAR SIGN VISARGA;MYANMAR SIGN VIRAMA
MYANMAR SIGN ASAT;MYANMAR CONSONANT SIGN MEDIAL YA;MYANMAR CONSONANT SIGN MEDIAL RA
MYANMAR CONSONANT SIGN MEDIAL WA;MYANMAR CONSONANT SIGN MEDIAL HA;MYANMAR LETTER GREAT SA
MYANMAR DIGIT ZERO;MYANMAR DIGIT ONE;MYANMAR DIGIT TWO;MYANMAR DIGIT THREE;MYANMAR DIGIT FOUR
MYANMAR DIGIT FIVE;MYANMAR DIGIT SIX;MYANMAR DIGIT SEVEN;MYANMAR DIGIT EIGHT;MYANMAR DIGIT NINE
MYANMAR SIGN LITTLE SECTION;MYANMAR SIGN SECTION;MYANMAR SYMBOL LOCATIVE;MYANMAR SYMBOL COMPLETED
MYANMAR SYMBOL AFOREMENTIONED;MYANMAR SYMBOL GENITIVE;MYANMAR LETTER SHA;MYANMAR LETTER SSA
MYANMAR LETTER VOCALIC R;MYANMAR LETTER VOCALIC RR;MYANMAR LETTER VOCALIC L
MYANMAR LETTER VOCALIC LL;MYANMAR VOWEL SIGN VOCALIC R;MYANMAR VOWEL SIGN VOCALIC RR
MYANMAR VOWEL SIGN VOCALIC L;MYANMAR VOWEL SIGN VOCALIC LL;MYANMAR LETTER MON NGA
MYANMAR LETTER MON JHA;MYANMAR LETTER MON BBA;MYANMAR LETTER MON BBE
MYANMAR CONSONANT SIGN MON MEDIAL NA;MYANMAR CONSONANT SIGN MON MEDIAL MA
MYANMAR CONSONANT SIGN MON MEDIAL LA;MYANMAR LETTER SGAW KAREN SHA
MYANMAR VOWEL SIGN SGAW KAREN EU;MYANMAR TONE MARK SGAW KAREN HATHI
MYANMAR TONE MARK SGAW KAREN KE PHO;MYANMAR LETTER WESTERN PWO KAREN THA
MYANMAR LETTER WESTERN PWO KAREN PWA;MYANMAR VOWEL SIGN WESTERN PWO KAREN EU
MYANMAR VOWEL SIGN WESTERN PWO KAREN UE;MYANMAR SIGN WESTERN PWO KAREN TONE-1
MYANMAR SIGN WESTERN PWO KAREN TONE-2;MYANMAR SIGN WESTERN PWO KAREN TONE-3
MYANMAR SIGN WESTERN PWO KAREN TONE-4;MYANMAR SIGN WESTERN PWO KAREN TONE-5
MYANMAR LETTER EASTERN PWO KAREN NNA;MYANMAR LETTER EASTERN PWO KAREN YWA
MYANMAR LETTER EASTERN PWO KAREN GHWA;MYANMAR VOWEL SIGN GEBA KAREN I;MYANMAR VOWEL SIGN KAYAH OE
MYANMAR VOWEL SIGN KAYAH U;MYANMAR VOWEL SIGN KAYAH EE;MYANMAR LETTER SHAN KA
MYANMAR LETTER SHAN KHA;MYANMAR LETTER SHAN GA;MYANMAR LETTER SHAN CA;MYANMAR LETTER SHAN ZA
MYANMAR LETTER SHAN NYA;MYANMAR LETTER SHAN DA;MYANMAR LETTER SHAN NA;MYANMAR LETTER SHAN PHA
MYANMAR LETTER SHAN FA;MYANMAR LETTER SHAN BA;MYANMAR LETTER SHAN THA;MYANMAR LETTER SHAN HA
MYANMAR CONSONANT SIGN SHAN MEDIAL WA;MYANMAR VOWEL SIGN SHAN AA;MYANMAR VOWEL SIGN SHAN E
MYANMAR VOWEL SIGN SHAN E ABOVE;MYANMAR VOWEL SIGN SHAN FINAL Y;MYANMAR SIGN SHAN TONE-2
MYANMAR SIGN SHAN TONE-3;MYANMAR SIGN SHAN TONE-5;MYANMAR SIGN SHAN TONE-6
MYANMAR SIGN SHAN COUNCIL TONE-2;MYANMAR SIGN SHAN COUNCIL TONE-3
MYANMAR SIGN SHAN COUNCIL EMPHATIC TONE;MYANMAR LETTER RUMAI PALAUNG FA
MYANMAR SIGN RUMAI PALAUNG TONE-5;MYANMAR SHAN DIGIT ZERO;MYANMAR SHAN DIGIT ONE
MYANMAR SHAN DIGIT TWO;MYANMAR SHAN DIGIT THREE;MYANMAR SHAN DIGIT FOUR;MYANMAR SHAN DIGIT FIVE
MYANMAR SHAN DIGIT SIX;MYANMAR SHAN DIGIT SEVEN;MYANMAR SHAN DIGIT EIGHT;MYANMAR SHAN DIGIT NINE
MYANMAR SIGN KHAMTI TONE-1;MYANMAR SIGN KHAMTI TONE-3;MYANMAR VOWEL SIGN AITON A
MYANMAR VOWEL SIGN AITON AI;MYANMAR SYMBOL SHAN ONE;MYANMAR SYMBOL SHAN EXCLAMATION
GEORGIAN CAPITAL LETTER AN;GEORGIAN CAPITAL LETTER BAN;GEORGIAN CAPITAL LETTER GAN
GEORGIAN CAPITAL LETTER DON;GEORGIAN CAPITAL LETTER EN;GEORGIAN CAPITAL LETTER VIN
GEORGIAN CAPITAL LETTER ZEN;GEORGIAN CAPITAL LETTER TAN;GEORGIAN CAPITAL LETTER IN
GEORGIAN CAPITAL LETTER KAN;GEORGIAN CAPITAL LETTER LAS;GEORGIAN CAPITAL LETTER MAN
GEORGIAN CAPITAL LETTER NAR;GEORGIAN CAPITAL LETTER ON;GEORGIAN CAPITAL LETTER PAR
GEORGIAN CAPITAL LETTER ZHAR;GEORGIAN CAPITAL LETTER RAE;GEORGIAN CAPITAL LETTER SAN
GEORGIAN CAPITAL LETTER TAR;GEORGIAN CAPITAL LETTER UN;GEORGIAN CAPITAL LETTER PHAR
GEORGIAN CAPITAL LETTER KHAR;GEORGIAN CAPITAL LETTER GHAN;GEORGIAN CAPITAL LETTER QAR
GEORGIAN CAPITAL LETTER SHIN;GEORGIAN CAPITAL LETTER CHIN;GEORGIAN CAPITAL LETTER CAN
GEORGIAN CAPITAL LETTER JIL;GEORGIAN CAPITAL LETTER CIL;GEORGIAN CAPITAL LETTER CHAR
GEORGIAN CAPITAL LETTER XAN;GEORGIAN CAPITAL LETTER JHAN;GEORGIAN CAPITAL LETTER HAE
GEORGIAN CAPITAL LETTER HE;GEORGIAN CAPITAL LETTER HIE;GEORGIAN CAPITAL LETTER WE
GEORGIAN CAPITAL LETTER HAR;GEORGIAN CAPITAL LETTER HOE"),
  (0x10c7, "GEORGIAN CAPITAL LETTER YN"),
  (0x10cd, "GEORGIAN CAPITAL LETTER AEN"),
  (0x10d0, "GEORGIAN LETTER AN;GEORGIAN LETTER BAN;GEORGIAN LETTER GAN;GEORGIAN LETTER DON
GEORGIAN LETTER EN;GEORGIAN LETTER VIN;GEORGIAN LETTER ZEN;GEORGIAN LETTER TAN;GEORGIAN LETTER IN
GEORGIAN LETTER KAN;GEORGIAN LETTER LAS;GEORGIAN LETTER MAN;GEORGIAN LETTER NAR
GEORGIAN LETTER ON;GEORGIAN LETTER PAR;GEORGIAN LETTER ZHAR;GEORGIAN LETTER RAE
GEORGIAN LETTER SAN;GEORGIAN LETTER TAR;GEORGIAN LETTER UN;GEORGIAN LETTER PHAR
GEORGIAN LETTER KHAR;GEORGIAN LETTER GHAN;GEORGIAN LETTER QAR;GEORGIAN LETTER SHIN
GEORGIAN LETTER CHIN;GEORGIAN LETTER CAN;GEORGIAN LETTER JIL;GEORGIAN LETTER CIL
GEORGIAN LETTER CHAR;GEORGIAN LETTER XAN;GEORGIAN LETTER JHAN;GEORGIAN LETTER HAE
GEORGIAN LETTER HE;GEORGIAN LETTER HIE;GEORGIAN LETTER WE;GEORGIAN LETTER HAR;GEORGIAN LETTER HOE
GEORGIAN LETTER FI;GEORGIAN LETTER YN;GEORGIAN LETTER ELIFI;GEORGIAN LETTER TURNED GAN
GEORGIAN LETTER AIN;GEORGIAN PARAGRAPH SEPARATOR;MODIFIER LETTER GEORGIAN NAR;GEORGIAN LETTER AEN
GEORGIAN LETTER HARD SIGN;GEORGIAN LETTER LABIAL SIGN;HANGUL CHOSEONG KIYEOK
HANGUL CHOSEONG SSANGKIYEOK;HANGUL CHOSEONG NIEUN;HANGUL CHOSEONG TIKEUT
HANGUL CHOSEONG SSANGTIKEUT;HANGUL CHOSEONG RIEUL;HANGUL CHOSEONG MIEUM;HANGUL CHOSEONG PIEUP
HANGUL CHOSEONG SSANGPIEUP;HANGUL CHOSEONG SIOS;HANGUL CHOSEONG SSANGSIOS;HANGUL CHOSEONG IEUNG
HANGUL CHOSEONG CIEUC;HANGUL CHOSEONG SSANGCIEUC;HANGUL CHOSEONG CHIEUCH;HANGUL CHOSEONG KHIEUKH
HANGUL CHOSEONG THIEUTH;HANGUL CHOSEONG PHIEUPH;HANGUL CHOSEONG HIEUH
HANGUL CHOSEONG NIEUN-KIYEOK;HANGUL CHOSEONG SSANGNIEUN;HANGUL CHOSEONG NIEUN-TIKEUT
HANGUL CHOSEONG NIEUN-PIEUP;HANGUL CHOSEONG TIKEUT-KIYEOK;HANGUL CHOSEONG RIEUL-NIEUN
HANGUL CHOSEONG SSANGRIEUL;HANGUL CHOSEONG RIEUL-HIEUH;HANGUL CHOSEONG KAPYEOUNRIEUL
HANGUL CHOSEONG MIEUM-PIEUP;HANGUL CHOSEONG KAPYEOUNMIEUM;HANGUL CHOSEONG PIEUP-KIYEOK
HANGUL CHOSEONG PIEUP-NIEUN;HANGUL CHOSEONG PIEUP-TIKEUT;HANGUL CHOSEONG PIEUP-SIOS
HANGUL CHOSEONG PIEUP-SIOS-KIYEOK;HANGUL CHOSEONG PIEUP-SIOS-TIKEUT
HANGUL CHOSEONG PIEUP-SIOS-PIEUP;HANGUL CHOSEONG PIEUP-SSANGSIOS;HANGUL CHOSEONG PIEUP-SIOS-CIEUC
HANGUL CHOSEONG PIEUP-CIEUC;HANGUL CHOSEONG PIEUP-CHIEUCH;HANGUL CHOSEONG PIEUP-THIEUTH
HANGUL CHOSEONG PIEUP-PHIEUPH;HANGUL CHOSEONG KAPYEOUNPIEUP;HANGUL CHOSEONG KAPYEOUNSSANGPIEUP
HANGUL CHOSEONG SIOS-KIYEOK;HANGUL CHOSEONG SIOS-NIEUN;HANGUL CHOSEONG SIOS-TIKEUT
HANGUL CHOSEONG SIOS-RIEUL;HANGUL CHOSEONG SIOS-MIEUM;HANGUL CHOSEONG SIOS-PIEUP
HANGUL CHOSEONG SIOS-PIEUP-KIYEOK;HANGUL CHOSEONG SIOS-SSANGSIOS;HANGUL CHOSEONG SIOS-IEUNG
HANGUL CHOSEONG SIOS-CIEUC;HANGUL CHOSEONG SIOS-CHIEUCH;HANGUL CHOSEONG SIOS-KHIEUKH
HANGUL CHOSEONG SIOS-THIEUTH;HANGUL CHOSEONG SIOS-PHIEUPH;HANGUL CHOSEONG SIOS-HIEUH
HANGUL CHOSEONG CHITUEUMSIOS;HANGUL CHOSEONG CHITUEUMSSANGSIOS;HANGUL CHOSEONG CEONGCHIEUMSIOS
HANGUL CHOSEONG CEONGCHIEUMSSANGSIOS;HANGUL CHOSEONG PANSIOS;HANGUL CHOSEONG IEUNG-KIYEOK
HANGUL CHOSEONG IEUNG-TIKEUT;HANGUL CHOSEONG IEUNG-MIEUM;HANGUL CHOSEONG IEUNG-PIEUP
HANGUL CHOSEONG IEUNG-SIOS;HANGUL CHOSEONG IEUNG-PANSIOS;HANGUL CHOSEONG SSANGIEUNG
HANGUL CHOSEONG IEUNG-CIEUC;HANGUL CHOSEONG IEUNG-CHIEUCH;HANGUL CHOSEONG IEUNG-THIEUTH
HANGUL CHOSEONG IEUNG-PHIEUPH;HANGUL CHOSEONG YESIEUNG;HANGUL CHOSEONG CIEUC-IEUNG
HANGUL CHOSEONG CHITUEUMCIEUC;HANGUL CHOSEONG CHITUEUMSSANGCIEUC;HANGUL CHOSEONG CEONGCHIEUMCIEUC
HANGUL CHOSEONG CEONGCHIEUMSSANGCIEUC;HANGUL CHOSEONG CHIEUCH-KHIEUKH
HANGUL CHOSEONG CHIEUCH-HIEUH;HANGUL CHOSEONG CHITUEUMCHIEUCH;HANGUL CHOSEONG CEONGCHIEUMCHIEUCH
HANGUL CHOSEONG PHIEUPH-PIEUP;HANGUL CHOSEONG KAPYEOUNPHIEUPH;HANGUL CHOSEONG SSANGHIEUH
HANGUL CHOSEONG YEORINHIEUH;HANGUL CHOSEONG KIYEOK-TIKEUT;HANGUL CHOSEONG NIEUN-SIOS
HANGUL CHOSEONG NIEUN-CIEUC;HANGUL CHOSEONG NIEUN-HIEUH;HANGUL CHOSEONG TIKEUT-RIEUL
HANGUL CHOSEONG FILLER;HANGUL JUNGSEONG FILLER;HANGUL JUNGSEONG A;HANGUL JUNGSEONG AE
HANGUL JUNGSEONG YA;HANGUL JUNGSEONG YAE;HANGUL JUNGSEONG EO;HANGUL JUNGSEONG E
HANGUL JUNGSEONG YEO;HANGUL JUNGSEONG YE;HANGUL JUNGSEONG O;HANGUL JUNGSEONG WA
HANGUL JUNGSEONG WAE;HANGUL JUNGSEONG OE;HANGUL JUNGSEONG YO;HANGUL JUNGSEONG U
HANGUL JUNGSEONG WEO;HANGUL JUNGSEONG WE;HANGUL JUNGSEONG WI;HANGUL JUNGSEONG YU
HANGUL JUNGSEONG EU;HANGUL JUNGSEONG YI;HANGUL JUNGSEONG I;HANGUL JUNGSEONG A-O
HANGUL JUNGSEONG A-U;HANGUL JUNGSEONG YA-O;HANGUL JUNGSEONG YA-YO;HANGUL JUNGSEONG EO-O
HANGUL JUNGSEONG EO-U;HANGUL JUNGSEONG EO-EU;HANGUL JUNGSEONG YEO-O;HANGUL JUNGSEONG YEO-U
HANGUL JUNGSEONG O-EO;HANGUL JUNGSEONG O-E;HANGUL JUNGSEONG O-YE;HANGUL JUNGSEONG O-O
HANGUL JUNGSEONG O-U;HANGUL JUNGSEONG YO-YA;HANGUL JUNGSEONG YO-YAE;HANGUL JUNGSEONG YO-YEO
HANGUL JUNGSEONG YO-O;HANGUL JUNGSEONG YO-I;HANGUL JUNGSEONG U-A;HANGUL JUNGSEONG U-AE
HANGUL JUNGSEONG U-EO-EU;HANGUL JUNGSEONG U-YE;HANGUL JUNGSEONG U-U;HANGUL JUNGSEONG YU-A
HANGUL JUNGSEONG YU-EO;HANGUL JUNGSEONG YU-E;HANGUL JUNGSEONG YU-YEO;HANGUL JUNGSEONG YU-YE
HANGUL JUNGSEONG YU-U;HANGUL JUNGSEONG YU-I;HANGUL JUNGSEONG EU-U;HANGUL JUNGSEONG EU-EU
HANGUL JUNGSEONG YI-U;HANGUL JUNGSEONG I-A;HANGUL JUNGSEONG I-YA;HANGUL JUNGSEONG I-O
HANGUL JUNGSEONG I-U;HANGUL JUNGSEONG I-EU;HANGUL JUNGSEONG I-ARAEA;HANGUL JUNGSEONG ARAEA
HANGUL JUNGSEONG ARAEA-EO;HANGUL JUNGSEONG ARAEA-U;HANGUL JUNGSEONG ARAEA-I
HANGUL JUNGSEONG SSANGARAEA;HANGUL JUNGSEONG A-EU;HANGUL JUNGSEONG YA-U;HANGUL JUNGSEONG YEO-YA
HANGUL JUNGSEONG O-YA;HANGUL JUNGSEONG O-YAE;HANGUL JONGSEONG KIYEOK;HANGUL JONGSEONG SSANGKIYEOK
HANGUL JONGSEONG KIYEOK-SIOS;HANGUL JONGSEONG NIEUN;HANGUL JONGSEONG NIEUN-CIEUC
HANGUL JONGSEONG NIEUN-HIEUH;HANGUL JONGSEONG TIKEUT;HANGUL JONGSEONG RIEUL
HANGUL JONGSEONG RIEUL-KIYEOK;HANGUL JONGSEONG RIEUL-MIEUM;HANGUL JONGSEONG RIEUL-PIEUP
HANGUL JONGSEONG RIEUL-SIOS;HANGUL JONGSEONG RIEUL-THIEUTH;HANGUL JONGSEONG RIEUL-PHIEUPH
HANGUL JONGSEONG RIEUL-HIEUH;HANGUL JONGSEONG MIEUM;HANGUL JONGSEONG PIEUP
HANGUL JONGSEONG PIEUP-SIOS;HANGUL JONGSEONG SIOS;HANGUL JONGSEONG SSANGSIOS
HANGUL JONGSEONG IEUNG;HANGUL JONGSEONG CIEUC;HANGUL JONGSEONG CHIEUCH;HANGUL JONGSEONG KHIEUKH
HANGUL JONGSEONG THIEUTH;HANGUL JONGSEONG PHIEUPH;HANGUL JONGSEONG HIEUH
HANGUL JONGSEONG KIYEOK-RIEUL;HANGUL JONGSEONG KIYEOK-SIOS-KIYEOK;HANGUL JONGSEONG NIEUN-KIYEOK
HANGUL JONGSEONG NIEUN-TIKEUT;HANGUL JONGSEONG NIEUN-SIOS;HANGUL JONGSEONG NIEUN-PANSIOS
HANGUL JONGSEONG NIEUN-THIEUTH;HANGUL JONGSEONG TIKEUT-KIYEOK;HANGUL JONGSEONG TIKEUT-RIEUL
HANGUL JONGSEONG RIEUL-KIYEOK-SIOS;HANGUL JONGSEONG RIEUL-NIEUN;HANGUL JONGSEONG RIEUL-TIKEUT
HANGUL JONGSEONG RIEUL-TIKEUT-HIEUH;HANGUL JONGSEONG SSANGRIEUL
HANGUL JONGSEONG RIEUL-MIEUM-KIYEOK;HANGUL JONGSEONG RIEUL-MIEUM-SIOS
HANGUL JONGSEONG RIEUL-PIEUP-SIOS;HANGUL JONGSEONG RIEUL-PIEUP-HIEUH
HANGUL JONGSEONG RIEUL-KAPYEOUNPIEUP;HANGUL JONGSEONG RIEUL-SSANGSIOS
HANGUL JONGSEONG RIEUL-PANSIOS;HANGUL JONGSEONG RIEUL-KHIEUKH;HANGUL JONGSEONG RIEUL-YEORINHIEUH
HANGUL JONGSEONG MIEUM-KIYEOK;HANGUL JONGSEONG MIEUM-RIEUL;HANGUL JONGSEONG MIEUM-PIEUP
HANGUL JONGSEONG MIEUM-SIOS;HANGUL JONGSEONG MIEUM-SSANGSIOS;HANGUL JONGSEONG MIEUM-PANSIOS
HANGUL JONGSEONG MIEUM-CHIEUCH;HANGUL JONGSEONG MIEUM-HIEUH;HANGUL JONGSEONG KAPYEOUNMIEUM
HANGUL JONGSEONG PIEUP-RIEUL;HANGUL JONGSEONG PIEUP-PHIEUPH;HANGUL JONGSEONG PIEUP-HIEUH
HANGUL JONGSEONG KAPYEOUNPIEUP;HANGUL JONGSEONG SIOS-KIYEOK;HANGUL JONGSEONG SIOS-TIKEUT
HANGUL JONGSEONG SIOS-RIEUL;HANGUL JONGSEONG SIOS-PIEUP;HANGUL JONGSEONG PANSIOS
HANGUL JONGSEONG IEUNG-KIYEOK;HANGUL JONGSEONG IEUNG-SSANGKIYEOK;HANGUL JONGSEONG SSANGIEUNG
HANGUL JONGSEONG IEUNG-KHIEUKH;HANGUL JONGSEONG YESIEUNG;HANGUL JONGSEONG YESIEUNG-SIOS
HANGUL JONGSEONG YESIEUNG-PANSIOS;HANGUL JONGSEONG PHIEUPH-PIEUP;HANGUL JONGSEONG KAPYEOUNPHIEUPH
HANGUL JONGSEONG HIEUH-NIEUN;HANGUL JONGSEONG HIEUH-RIEUL;HANGUL JONGSEONG HIEUH-MIEUM
HANGUL JONGSEONG HIEUH-PIEUP;HANGUL JONGSEONG YEORINHIEUH;HANGUL JONGSEONG KIYEOK-NIEUN
HANGUL JONGSEONG KIYEOK-PIEUP;HANGUL JONGSEONG KIYEOK-CHIEUCH;HANGUL JONGSEONG KIYEOK-KHIEUKH
HANGUL JONGSEONG KIYEOK-HIEUH;HANGUL JONGSEONG SSANGNIEUN;ETHIOPIC SYLLABLE HA
ETHIOPIC SYLLABLE HU;ETHIOPIC SYLLABLE HI;ETHIOPIC SYLLABLE HAA;ETHIOPIC SYLLABLE HEE
ETHIOPIC SYLLABLE HE;ETHIOPIC SYLLABLE HO;ETHIOPIC SYLLABLE HOA;ETHIOPIC SYLLABLE LA
ETHIOPIC SYLLABLE LU;ETHIOPIC SYLLABLE LI;ETHIOPIC SYLLABLE LAA;ETHIOPIC SYLLABLE LEE
ETHIOPIC SYLLABLE LE;ETHIOPIC SYLLABLE LO;ETHIOPIC SYLLABLE LWA;ETHIOPIC SYLLABLE HHA
ETHIOPIC SYLLABLE HHU;ETHIOPIC SYLLABLE HHI;ETHIOPIC SYLLABLE HHAA;ETHIOPIC SYLLABLE HHEE
ETHIOPIC SYLLABLE HHE;ETHIOPIC SYLLABLE HHO;ETHIOPIC SYLLABLE HHWA;ETHIOPIC SYLLABLE MA
ETHIOPIC SYLLABLE MU;ETHIOPIC SYLLABLE MI;ETHIOPIC SYLLABLE MAA;ETHIOPIC SYLLABLE MEE
ETHIOPIC SYLLABLE ME;ETHIOPIC SYLLABLE MO;ETHIOPIC SYLLABLE MWA;ETHIOPIC SYLLABLE SZA
ETHIOPIC SYLLABLE SZU;ETHIOPIC SYLLABLE SZI;ETHIOPIC SYLLABLE SZAA;ETHIOPIC SYLLABLE SZEE
ETHIOPIC SYLLABLE SZE;ETHIOPIC SYLLABLE SZO;ETHIOPIC SYLLABLE SZWA;ETHIOPIC SYLLABLE RA
ETHIOPIC SYLLABLE RU;ETHIOPIC SYLLABLE RI;ETHIOPIC SYLLABLE RAA;ETHIOPIC SYLLABLE REE
ETHIOPIC SYLLABLE RE;ETHIOPIC SYLLABLE RO;ETHIOPIC SYLLABLE RWA;ETHIOPIC SYLLABLE SA
ETHIOPIC SYLLABLE SU;ETHIOPIC SYLLABLE SI;ETHIOPIC SYLLABLE SAA;ETHIOPIC SYLLABLE SEE
ETHIOPIC SYLLABLE SE;ETHIOPIC SYLLABLE SO;ETHIOPIC SYLLABLE SWA;ETHIOPIC SYLLABLE SHA
ETHIOPIC SYLLABLE SHU;ETHIOPIC SYLLABLE SHI;ETHIOPIC SYLLABLE SHAA;ETHIOPIC SYLLABLE SHEE
ETHIOPIC SYLLABLE SHE;ETHIOPIC SYLLABLE SHO;ETHIOPIC SYLLABLE SHWA;ETHIOPIC SYLLABLE QA
ETHIOPIC SYLLABLE QU;ETHIOPIC SYLLABLE QI;ETHIOPIC SYLLABLE QAA;ETHIOPIC SYLLABLE QEE
ETHIOPIC SYLLABLE QE;ETHIOPIC SYLLABLE QO;ETHIOPIC SYLLABLE QOA;ETHIOPIC SYLLABLE QWA"),
  (0x124a, "ETHIOPIC SYLLABLE QWI;ETHIOPIC SYLLABLE QWAA;ETHIOPIC SYLLABLE QWEE
ETHIOPIC SYLLABLE QWE"),
  (0x1250, "ETHIOPIC SYLLABLE QHA;ETHIOPIC SYLLABLE QHU;ETHIOPIC SYLLABLE QHI
ETHIOPIC SYLLABLE QHAA;ETHIOPIC SYLLABLE QHEE;ETHIOPIC SYLLABLE QHE;ETHIOPIC SYLLABLE QHO"),
  (0x1258, "ETHIOPIC SYLLABLE QHWA"),
  (0x125a, "ETHIOPIC SYLLABLE QHWI;ETHIOPIC SYLLABLE QHWAA;ETHIOPIC SYLLABLE QHWEE
ETHIOPIC SYLLABLE QHWE"),
  (0x1260, "ETHIOPIC SYLLABLE BA;ETHIOPIC SYLLABLE BU;ETHIOPIC SYLLABLE BI;ETHIOPIC SYLLABLE BAA
ETHIOPIC SYLLABLE BEE;ETHIOPIC SYLLABLE BE;ETHIOPIC SYLLABLE BO;ETHIOPIC SYLLABLE BWA
ETHIOPIC SYLLABLE VA;ETHIOPIC SYLLABLE VU;ETHIOPIC SYLLABLE VI;ETHIOPIC SYLLABLE VAA
ETHIOPIC SYLLABLE VEE;ETHIOPIC SYLLABLE VE;ETHIOPIC SYLLABLE VO;ETHIOPIC SYLLABLE VWA
ETHIOPIC SYLLABLE TA;ETHIOPIC SYLLABLE TU;ETHIOPIC SYLLABLE TI;ETHIOPIC SYLLABLE TAA
ETHIOPIC SYLLABLE TEE;ETHIOPIC SYLLABLE TE;ETHIOPIC SYLLABLE TO;ETHIOPIC SYLLABLE TWA
ETHIOPIC SYLLABLE CA;ETHIOPIC SYLLABLE CU;ETHIOPIC SYLLABLE CI;ETHIOPIC SYLLABLE CAA
ETHIOPIC SYLLABLE CEE;ETHIOPIC SYLLABLE CE;ETHIOPIC SYLLABLE CO;ETHIOPIC SYLLABLE CWA
ETHIOPIC SYLLABLE XA;ETHIOPIC SYLLABLE XU;ETHIOPIC SYLLABLE XI;ETHIOPIC SYLLABLE XAA
ETHIOPIC SYLLABLE XEE;ETHIOPIC SYLLABLE XE;ETHIOPIC SYLLABLE XO;ETHIOPIC SYLLABLE XOA
ETHIOPIC SYLLABLE XWA"),
  (0x128a, "ETHIOPIC SYLLABLE XWI;ETHIOPIC SYLLABLE XWAA;ETHIOPIC SYLLABLE XWEE
ETHIOPIC SYLLABLE XWE"),
  (0x1290, "ETHIOPIC SYLLABLE NA;ETHIOPIC SYLLABLE NU;ETHIOPIC SYLLABLE NI;ETHIOPIC SYLLABLE NAA
ETHIOPIC SYLLABLE NEE;ETHIOPIC SYLLABLE NE;ETHIOPIC SYLLABLE NO;ETHIOPIC SYLLABLE NWA
ETHIOPIC SYLLABLE NYA;ETHIOPIC SYLLABLE NYU;ETHIOPIC SYLLABLE NYI;ETHIOPIC SYLLABLE NYAA
ETHIOPIC SYLLABLE NYEE;ETHIOPIC SYLLABLE NYE;ETHIOPIC SYLLABLE NYO;ETHIOPIC SYLLABLE NYWA
ETHIOPIC SYLLABLE GLOTTAL A;ETHIOPIC SYLLABLE GLOTTAL U;ETHIOPIC SYLLABLE GLOTTAL I
ETHIOPIC SYLLABLE GLOTTAL AA;ETHIOPIC SYLLABLE GLOTTAL EE;ETHIOPIC SYLLABLE GLOTTAL E
ETHIOPIC SYLLABLE GLOTTAL O;ETHIOPIC SYLLABLE GLOTTAL WA;ETHIOPIC SYLLABLE KA
ETHIOPIC SYLLABLE KU;ETHIOPIC SYLLABLE KI;ETHIOPIC SYLLABLE KAA;ETHIOPIC SYLLABLE KEE
ETHIOPIC SYLLABLE KE;ETHIOPIC SYLLABLE KO;ETHIOPIC SYLLABLE KOA;ETHIOPIC SYLLABLE KWA"),
  (0x12b2, "ETHIOPIC SYLLABLE KWI;ETHIOPIC SYLLABLE KWAA;ETHIOPIC SYLLABLE KWEE
ETHIOPIC SYLLABLE KWE"),
  (0x12b8, "ETHIOPIC SYLLABLE KXA;ETHIOPIC SYLLABLE KXU;ETHIOPIC SYLLABLE KXI
ETHIOPIC SYLLABLE KXAA;ETHIOPIC SYLLABLE KXEE;ETHIOPIC SYLLABLE KXE;ETHIOPIC SYLLABLE KXO"),
  (0x12c0, "ETHIOPIC SYLLABLE KXWA"),
  (0x12c2, "ETHIOPIC SYLLABLE KXWI;ETHIOPIC SYLLABLE KXWAA;ETHIOPIC SYLLABLE KXWEE
ETHIOPIC SYLLABLE KXWE"),
  (0x12c8, "ETHIOPIC SYLLABLE WA;ETHIOPIC SYLLABLE WU;ETHIOPIC SYLLABLE WI;ETHIOPIC SYLLABLE WAA
ETHIOPIC SYLLABLE WEE;ETHIOPIC SYLLABLE WE;ETHIOPIC SYLLABLE WO;ETHIOPIC SYLLABLE WOA
ETHIOPIC SYLLABLE PHARYNGEAL A;ETHIOPIC SYLLABLE PHARYNGEAL U;ETHIOPIC SYLLABLE PHARYNGEAL I
ETHIOPIC SYLLABLE PHARYNGEAL AA;ETHIOPIC SYLLABLE PHARYNGEAL EE;ETHIOPIC SYLLABLE PHARYNGEAL E
ETHIOPIC SYLLABLE PHARYNGEAL O"),
  (0x12d8, "ETHIOPIC SYLLABLE ZA;ETHIOPIC SYLLABLE ZU;ETHIOPIC SYLLABLE ZI;ETHIOPIC SYLLABLE ZAA
ETHIOPIC SYLLABLE ZEE;ETHIOPIC SYLLABLE ZE;ETHIOPIC SYLLABLE ZO;ETHIOPIC SYLLABLE ZWA
ETHIOPIC SYLLABLE ZHA;ETHIOPIC SYLLABLE ZHU;ETHIOPIC SYLLABLE ZHI;ETHIOPIC SYLLABLE ZHAA
ETHIOPIC SYLLABLE ZHEE;ETHIOPIC SYLLABLE ZHE;ETHIOPIC SYLLABLE ZHO;ETHIOPIC SYLLABLE ZHWA
ETHIOPIC SYLLABLE YA;ETHIOPIC SYLLABLE YU;ETHIOPIC SYLLABLE YI;ETHIOPIC SYLLABLE YAA
ETHIOPIC SYLLABLE YEE;ETHIOPIC SYLLABLE YE;ETHIOPIC SYLLABLE YO;ETHIOPIC SYLLABLE YOA
ETHIOPIC SYLLABLE DA;ETHIOPIC SYLLABLE DU;ETHIOPIC SYLLABLE DI;ETHIOPIC SYLLABLE DAA
ETHIOPIC SYLLABLE DEE;ETHIOPIC SYLLABLE DE;ETHIOPIC SYLLABLE DO;ETHIOPIC SYLLABLE DWA
ETHIOPIC SYLLABLE DDA;ETHIOPIC SYLLABLE DDU;ETHIOPIC SYLLABLE DDI;ETHIOPIC SYLLABLE DDAA
ETHIOPIC SYLLABLE DDEE;ETHIOPIC SYLLABLE DDE;ETHIOPIC SYLLABLE DDO;ETHIOPIC SYLLABLE DDWA
ETHIOPIC SYLLABLE JA;ETHIOPIC SYLLABLE JU;ETHIOPIC SYLLABLE JI;ETHIOPIC SYLLABLE JAA
ETHIOPIC SYLLABLE JEE;ETHIOPIC SYLLABLE JE;ETHIOPIC SYLLABLE JO;ETHIOPIC SYLLABLE JWA
ETHIOPIC SYLLABLE GA;ETHIOPIC SYLLABLE GU;ETHIOPIC SYLLABLE GI;ETHIOPIC SYLLABLE GAA
ETHIOPIC SYLLABLE GEE;ETHIOPIC SYLLABLE GE;ETHIOPIC SYLLABLE GO;ETHIOPIC SYLLABLE GOA
ETHIOPIC SYLLABLE GWA"),
  (0x1312, "ETHIOPIC SYLLABLE GWI;ETHIOPIC SYLLABLE GWAA;ETHIOPIC SYLLABLE GWEE
ETHIOPIC SYLLABLE GWE"),
  (0x1318, "ETHIOPIC SYLLABLE GGA;ETHIOPIC SYLLABLE GGU;ETHIOPIC SYLLABLE GGI
ETHIOPIC SYLLABLE GGAA;ETHIOPIC SYLLABLE GGEE;ETHIOPIC SYLLABLE GGE;ETHIOPIC SYLLABLE GGO
ETHIOPIC SYLLABLE GGWAA;ETHIOPIC SYLLABLE THA;ETHIOPIC SYLLABLE THU;ETHIOPIC SYLLABLE THI
ETHIOPIC SYLLABLE THAA;ETHIOPIC SYLLABLE THEE;ETHIOPIC SYLLABLE THE;ETHIOPIC SYLLABLE THO
ETHIOPIC SYLLABLE THWA;ETHIOPIC SYLLABLE CHA;ETHIOPIC SYLLABLE CHU;ETHIOPIC SYLLABLE CHI
ETHIOPIC SYLLABLE CHAA;ETHIOPIC SYLLABLE CHEE;ETHIOPIC SYLLABLE CHE;ETHIOPIC SYLLABLE CHO
ETHIOPIC SYLLABLE CHWA;ETHIOPIC SYLLABLE PHA;ETHIOPIC SYLLABLE PHU;ETHIOPIC SYLLABLE PHI
ETHIOPIC SYLLABLE PHAA;ETHIOPIC SYLLABLE PHEE;ETHIOPIC SYLLABLE PHE;ETHIOPIC SYLLABLE PHO
ETHIOPIC SYLLABLE PHWA;ETHIOPIC SYLLABLE TSA;ETHIOPIC SYLLABLE TSU;ETHIOPIC SYLLABLE TSI
ETHIOPIC SYLLABLE TSAA;ETHIOPIC SYLLABLE TSEE;ETHIOPIC SYLLABLE TSE;ETHIOPIC SYLLABLE TSO
ETHIOPIC SYLLABLE TSWA;ETHIOPIC SYLLABLE TZA;ETHIOPIC SYLLABLE TZU;ETHIOPIC SYLLABLE TZI
ETHIOPIC SYLLABLE TZAA;ETHIOPIC SYLLABLE TZEE;ETHIOPIC SYLLABLE TZE;ETHIOPIC SYLLABLE TZO
ETHIOPIC SYLLABLE TZOA;ETHIOPIC SYLLABLE FA;ETHIOPIC SYLLABLE FU;ETHIOPIC SYLLABLE FI
ETHIOPIC SYLLABLE FAA;ETHIOPIC SYLLABLE FEE;ETHIOPIC SYLLABLE FE;ETHIOPIC SYLLABLE FO
ETHIOPIC SYLLABLE FWA;ETHIOPIC SYLLABLE PA;ETHIOPIC SYLLABLE PU;ETHIOPIC SYLLABLE PI
ETHIOPIC SYLLABLE PAA;ETHIOPIC SYLLABLE PEE;ETHIOPIC SYLLABLE PE;ETHIOPIC SYLLABLE PO
ETHIOPIC SYLLABLE PWA;ETHIOPIC SYLLABLE RYA;ETHIOPIC SYLLABLE MYA;ETHIOPIC SYLLABLE FYA"),
  (0x135d, "ETHIOPIC COMBINING GEMINATION AND VOWEL LENGTH MARK
ETHIOPIC COMBINING VOWEL LENGTH MARK;ETHIOPIC COMBINING GEMINATION MARK;ETHIOPIC SECTION MARK
ETHIOPIC WORDSPACE;ETHIOPIC FULL STOP;ETHIOPIC COMMA;ETHIOPIC SEMICOLON;ETHIOPIC COLON
ETHIOPIC PREFACE COLON;ETHIOPIC QUESTION MARK;ETHIOPIC PARAGRAPH SEPARATOR;ETHIOPIC DIGIT ONE
ETHIOPIC DIGIT TWO;ETHIOPIC DIGIT THREE;ETHIOPIC DIGIT FOUR;ETHIOPIC DIGIT FIVE
ETHIOPIC DIGIT SIX;ETHIOPIC DIGIT SEVEN;ETHIOPIC DIGIT EIGHT;ETHIOPIC DIGIT NINE
ETHIOPIC NUMBER TEN;ETHIOPIC NUMBER TWENTY;ETHIOPIC NUMBER THIRTY;ETHIOPIC NUMBER FORTY
ETHIOPIC NUMBER FIFTY;ETHIOPIC NUMBER SIXTY;ETHIOPIC NUMBER SEVENTY;ETHIOPIC NUMBER EIGHTY
ETHIOPIC NUMBER NINETY;ETHIOPIC NUMBER HUNDRED;ETHIOPIC NUMBER TEN THOUSAND"),
  (0x1380, "ETHIOPIC SYLLABLE SEBATBEIT MWA;ETHIOPIC SYLLABLE MWI;ETHIOPIC SYLLABLE MWEE
ETHIOPIC SYLLABLE MWE;ETHIOPIC SYLLABLE SEBATBEIT BWA;ETHIOPIC SYLLABLE BWI
ETHIOPIC SYLLABLE BWEE;ETHIOPIC SYLLABLE BWE;ETHIOPIC SYLLABLE SEBATBEIT FWA
ETHIOPIC SYLLABLE FWI;ETHIOPIC SYLLABLE FWEE;ETHIOPIC SYLLABLE FWE
ETHIOPIC SYLLABLE SEBATBEIT PWA;ETHIOPIC SYLLABLE PWI;ETHIOPIC SYLLABLE PWEE
ETHIOPIC SYLLABLE PWE;ETHIOPIC TONAL MARK YIZET;ETHIOPIC TONAL MARK DERET
ETHIOPIC TONAL MARK RIKRIK;ETHIOPIC TONAL MARK SHORT RIKRIK;ETHIOPIC TONAL MARK DIFAT
ETHIOPIC TONAL MARK KENAT;ETHIOPIC TONAL MARK CHIRET;ETHIOPIC TONAL MARK HIDET
ETHIOPIC TONAL MARK DERET-HIDET;ETHIOPIC TONAL MARK KURT"),
  (0x13a0, "CHEROKEE LETTER A;CHEROKEE LETTER E;CHEROKEE LETTER I;CHEROKEE LETTER O
CHEROKEE LETTER U;CHEROKEE LETTER V;CHEROKEE LETTER GA;CHEROKEE LETTER KA;CHEROKEE LETTER GE
CHEROKEE LETTER GI;CHEROKEE LETTER GO;CHEROKEE LETTER GU;CHEROKEE LETTER GV;CHEROKEE LETTER HA
CHEROKEE LETTER HE;CHEROKEE LETTER HI;CHEROKEE LETTER HO;CHEROKEE LETTER HU;CHEROKEE LETTER HV
CHEROKEE LETTER LA;CHEROKEE LETTER LE;CHEROKEE LETTER LI;CHEROKEE LETTER LO;CHEROKEE LETTER LU
CHEROKEE LETTER LV;CHEROKEE LETTER MA;CHEROKEE LETTER ME;CHEROKEE LETTER MI;CHEROKEE LETTER MO
CHEROKEE LETTER MU;CHEROKEE LETTER NA;CHEROKEE LETTER HNA;CHEROKEE LETTER NAH;CHEROKEE LETTER NE
CHEROKEE LETTER NI;CHEROKEE LETTER NO;CHEROKEE LETTER NU;CHEROKEE LETTER NV;CHEROKEE LETTER QUA
CHEROKEE LETTER QUE;CHEROKEE LETTER QUI;CHEROKEE LETTER QUO;CHEROKEE LETTER QUU
CHEROKEE LETTER QUV;CHEROKEE LETTER SA;CHEROKEE LETTER S;CHEROKEE LETTER SE;CHEROKEE LETTER SI
CHEROKEE LETTER SO;CHEROKEE LETTER SU;CHEROKEE LETTER SV;CHEROKEE LETTER DA;CHEROKEE LETTER TA
CHEROKEE LETTER DE;CHEROKEE LETTER TE;CHEROKEE LETTER DI;CHEROKEE LETTER TI;CHEROKEE LETTER DO
CHEROKEE LETTER DU;CHEROKEE LETTER DV;CHEROKEE LETTER DLA;CHEROKEE LETTER TLA;CHEROKEE LETTER TLE
CHEROKEE LETTER TLI;CHEROKEE LETTER TLO;CHEROKEE LETTER TLU;CHEROKEE LETTER TLV
CHEROKEE LETTER TSA;CHEROKEE LETTER TSE;CHEROKEE LETTER TSI;CHEROKEE LETTER TSO
CHEROKEE LETTER TSU;CHEROKEE LETTER TSV;CHEROKEE LETTER WA;CHEROKEE LETTER WE;CHEROKEE LETTER WI
CHEROKEE LETTER WO;CHEROKEE LETTER WU;CHEROKEE LETTER WV;CHEROKEE LETTER YA;CHEROKEE LETTER YE
CHEROKEE LETTER YI;CHEROKEE LETTER YO;CHEROKEE LETTER YU;CHEROKEE LETTER YV;CHEROKEE LETTER MV"),
  (0x13f8, "CHEROKEE SMALL LETTER YE;CHEROKEE SMALL LETTER YI;CHEROKEE SMALL LETTER YO
CHEROKEE SMALL LETTER YU;CHEROKEE SMALL LETTER YV;CHEROKEE SMALL LETTER MV"),
  (0x1400, "CANADIAN SYLLABICS HYPHEN;CANADIAN SYLLABICS E;CANADIAN SYLLABICS AAI
CANADIAN SYLLABICS I;CANADIAN SYLLABICS II;CANADIAN SYLLABICS O;CANADIAN SYLLABICS OO
CANADIAN SYLLABICS Y-CREE OO;CANADIAN SYLLABICS CARRIER EE;CANADIAN SYLLABICS CARRIER I
CANADIAN SYLLABICS A;CANADIAN SYLLABICS AA;CANADIAN SYLLABICS WE;CANADIAN SYLLABICS WEST-CREE WE
CANADIAN SYLLABICS WI;CANADIAN SYLLABICS WEST-CREE WI;CANADIAN SYLLABICS WII
CANADIAN SYLLABICS WEST-CREE WII;CANADIAN SYLLABICS WO;CANADIAN SYLLABICS WEST-CREE WO
CANADIAN SYLLABICS WOO;CANADIAN SYLLABICS WEST-CREE WOO;CANADIAN SYLLABICS NASKAPI WOO
CANADIAN SYLLABICS WA;CANADIAN SYLLABICS WEST-CREE WA;CANADIAN SYLLABICS WAA
CANADIAN SYLLABICS WEST-CREE WAA;CANADIAN SYLLABICS NASKAPI WAA;CANADIAN SYLLABICS AI
CANADIAN SYLLABICS Y-CREE W;CANADIAN SYLLABICS GLOTTAL STOP;CANADIAN SYLLABICS FINAL ACUTE
CANADIAN SYLLABICS FINAL GRAVE;CANADIAN SYLLABICS FINAL BOTTOM HALF RING
CANADIAN SYLLABICS FINAL TOP HALF RING;CANADIAN SYLLABICS FINAL RIGHT HALF RING
CANADIAN SYLLABICS FINAL RING;CANADIAN SYLLABICS FINAL DOUBLE ACUTE
CANADIAN SYLLABICS FINAL DOUBLE SHORT VERTICAL STROKES;CANADIAN SYLLABICS FINAL MIDDLE DOT
CANADIAN SYLLABICS FINAL SHORT HORIZONTAL STROKE;CANADIAN SYLLABICS FINAL PLUS
CANADIAN SYLLABICS FINAL DOWN TACK;CANADIAN SYLLABICS EN;CANADIAN SYLLABICS IN
CANADIAN SYLLABICS ON;CANADIAN SYLLABICS AN;CANADIAN SYLLABICS PE;CANADIAN SYLLABICS PAAI
CANADIAN SYLLABICS PI;CANADIAN SYLLABICS PII;CANADIAN SYLLABICS PO;CANADIAN SYLLABICS POO
CANADIAN SYLLABICS Y-CREE POO;CANADIAN SYLLABICS CARRIER HEE;CANADIAN SYLLABICS CARRIER HI
CANADIAN SYLLABICS PA;CANADIAN SYLLABICS PAA;CANADIAN SYLLABICS PWE
CANADIAN SYLLABICS WEST-CREE PWE;CANADIAN SYLLABICS PWI;CANADIAN SYLLABICS WEST-CREE PWI
CANADIAN SYLLABICS PWII;CANADIAN SYLLABICS WEST-CREE PWII;CANADIAN SYLLABICS PWO
CANADIAN SYLLABICS WEST-CREE PWO;CANADIAN SYLLABICS PWOO;CANADIAN SYLLABICS WEST-CREE PWOO
CANADIAN SYLLABICS PWA;CANADIAN SYLLABICS WEST-CREE PWA;CANADIAN SYLLABICS PWAA
CANADIAN SYLLABICS WEST-CREE PWAA;CANADIAN SYLLABICS Y-CREE PWAA;CANADIAN SYLLABICS P
CANADIAN SYLLABICS WEST-CREE P;CANADIAN SYLLABICS CARRIER H;CANADIAN SYLLABICS TE
CANADIAN SYLLABICS TAAI;CANADIAN SYLLABICS TI;CANADIAN SYLLABICS TII;CANADIAN SYLLABICS TO
CANADIAN SYLLABICS TOO;CANADIAN SYLLABICS Y-CREE TOO;CANADIAN SYLLABICS CARRIER DEE
CANADIAN SYLLABICS CARRIER DI;CANADIAN SYLLABICS TA;CANADIAN SYLLABICS TAA;CANADIAN SYLLABICS TWE
CANADIAN SYLLABICS WEST-CREE TWE;CANADIAN SYLLABICS TWI;CANADIAN SYLLABICS WEST-CREE TWI
CANADIAN SYLLABICS TWII;CANADIAN SYLLABICS WEST-CREE TWII;CANADIAN SYLLABICS TWO
CANADIAN SYLLABICS WEST-CREE TWO;CANADIAN SYLLABICS TWOO;CANADIAN SYLLABICS WEST-CREE TWOO
CANADIAN SYLLABICS TWA;CANADIAN SYLLABICS WEST-CREE TWA;CANADIAN SYLLABICS TWAA
CANADIAN SYLLABICS WEST-CREE TWAA;CANADIAN SYLLABICS NASKAPI TWAA;CANADIAN SYLLABICS T
CANADIAN SYLLABICS TTE;CANADIAN SYLLABICS TTI;CANADIAN SYLLABICS TTO;CANADIAN SYLLABICS TTA
CANADIAN SYLLABICS KE;CANADIAN SYLLABICS KAAI;CANADIAN SYLLABICS KI;CANADIAN SYLLABICS KII
CANADIAN SYLLABICS KO;CANADIAN SYLLABICS KOO;CANADIAN SYLLABICS Y-CREE KOO;CANADIAN SYLLABICS KA
CANADIAN SYLLABICS KAA;CANADIAN SYLLABICS KWE;CANADIAN SYLLABICS WEST-CREE KWE
CANADIAN SYLLABICS KWI;CANADIAN SYLLABICS WEST-CREE KWI;CANADIAN SYLLABICS KWII
CANADIAN SYLLABICS WEST-CREE KWII;CANADIAN SYLLABICS KWO;CANADIAN SYLLABICS WEST-CREE KWO
CANADIAN SYLLABICS KWOO;CANADIAN SYLLABICS WEST-CREE KWOO;CANADIAN SYLLABICS KWA
CANADIAN SYLLABICS WEST-CREE KWA;CANADIAN SYLLABICS KWAA;CANADIAN SYLLABICS WEST-CREE KWAA
CANADIAN SYLLABICS NASKAPI KWAA;CANADIAN SYLLABICS K;CANADIAN SYLLABICS KW
CANADIAN SYLLABICS SOUTH-SLAVEY KEH;CANADIAN SYLLABICS SOUTH-SLAVEY KIH
CANADIAN SYLLABICS SOUTH-SLAVEY KOH;CANADIAN SYLLABICS SOUTH-SLAVEY KAH;CANADIAN SYLLABICS CE
CANADIAN SYLLABICS CAAI;CANADIAN SYLLABICS CI;CANADIAN SYLLABICS CII;CANADIAN SYLLABICS CO
CANADIAN SYLLABICS COO;CANADIAN SYLLABICS Y-CREE COO;CANADIAN SYLLABICS CA;CANADIAN SYLLABICS CAA
CANADIAN SYLLABICS CWE;CANADIAN SYLLABICS WEST-CREE CWE;CANADIAN SYLLABICS CWI
CANADIAN SYLLABICS WEST-CREE CWI;CANADIAN SYLLABICS CWII;CANADIAN SYLLABICS WEST-CREE CWII
CANADIAN SYLLABICS CWO;CANADIAN SYLLABICS WEST-CREE CWO;CANADIAN SYLLABICS CWOO
CANADIAN SYLLABICS WEST-CREE CWOO;CANADIAN SYLLABICS CWA;CANADIAN SYLLABICS WEST-CREE CWA
CANADIAN SYLLABICS CWAA;CANADIAN SYLLABICS WEST-CREE CWAA;CANADIAN SYLLABICS NASKAPI CWAA
CANADIAN SYLLABICS C;CANADIAN SYLLABICS SAYISI TH;CANADIAN SYLLABICS ME;CANADIAN SYLLABICS MAAI
CANADIAN SYLLABICS MI;CANADIAN SYLLABICS MII;CANADIAN SYLLABICS MO;CANADIAN SYLLABICS MOO
CANADIAN SYLLABICS Y-CREE MOO;CANADIAN SYLLABICS MA;CANADIAN SYLLABICS MAA;CANADIAN SYLLABICS MWE
CANADIAN SYLLABICS WEST-CREE MWE;CANADIAN SYLLABICS MWI;CANADIAN SYLLABICS WEST-CREE MWI
CANADIAN SYLLABICS MWII;CANADIAN SYLLABICS WEST-CREE MWII;CANADIAN SYLLABICS MWO
CANADIAN SYLLABICS WEST-CREE MWO;CANADIAN SYLLABICS MWOO;CANADIAN SYLLABICS WEST-CREE MWOO
CANADIAN SYLLABICS MWA;CANADIAN SYLLABICS WEST-CREE MWA;CANADIAN SYLLABICS MWAA
CANADIAN SYLLABICS WEST-CREE MWAA;CANADIAN SYLLABICS NASKAPI MWAA;CANADIAN SYLLABICS M
CANADIAN SYLLABICS WEST-CREE M;CANADIAN SYLLABICS MH;CANADIAN SYLLABICS ATHAPASCAN M
CANADIAN SYLLABICS SAYISI M;CANADIAN SYLLABICS NE;CANADIAN SYLLABICS NAAI;CANADIAN SYLLABICS NI
CANADIAN SYLLABICS NII;CANADIAN SYLLABICS NO;CANADIAN SYLLABICS NOO;CANADIAN SYLLABICS Y-CREE NOO
CANADIAN SYLLABICS NA;CANADIAN SYLLABICS NAA;CANADIAN SYLLABICS NWE
CANADIAN SYLLABICS WEST-CREE NWE;CANADIAN SYLLABICS NWA;CANADIAN SYLLABICS WEST-CREE NWA
CANADIAN SYLLABICS NWAA;CANADIAN SYLLABICS WEST-CREE NWAA;CANADIAN SYLLABICS NASKAPI NWAA
CANADIAN SYLLABICS N;CANADIAN SYLLABICS CARRIER NG;CANADIAN SYLLABICS NH;CANADIAN SYLLABICS LE
CANADIAN SYLLABICS LAAI;CANADIAN SYLLABICS LI;CANADIAN SYLLABICS LII;CANADIAN SYLLABICS LO
CANADIAN SYLLABICS LOO;CANADIAN SYLLABICS Y-CREE LOO;CANADIAN SYLLABICS LA;CANADIAN SYLLABICS LAA
CANADIAN SYLLABICS LWE;CANADIAN SYLLABICS WEST-CREE LWE;CANADIAN SYLLABICS LWI
CANADIAN SYLLABICS WEST-CREE LWI;CANADIAN SYLLABICS LWII;CANADIAN SYLLABICS WEST-CREE LWII
CANADIAN SYLLABICS LWO;CANADIAN SYLLABICS WEST-CREE LWO;CANADIAN SYLLABICS LWOO
CANADIAN SYLLABICS WEST-CREE LWOO;CANADIAN SYLLABICS LWA;CANADIAN SYLLABICS WEST-CREE LWA
CANADIAN SYLLABICS LWAA;CANADIAN SYLLABICS WEST-CREE LWAA;CANADIAN SYLLABICS L
CANADIAN SYLLABICS WEST-CREE L;CANADIAN SYLLABICS MEDIAL L;CANADIAN SYLLABICS SE
CANADIAN SYLLABICS SAAI;CANADIAN SYLLABICS SI;CANADIAN SYLLABICS SII;CANADIAN SYLLABICS SO
CANADIAN SYLLABICS SOO;CANADIAN SYLLABICS Y-CREE SOO;CANADIAN SYLLABICS SA;CANADIAN SYLLABICS SAA
CANADIAN SYLLABICS SWE;CANADIAN SYLLABICS WEST-CREE SWE;CANADIAN SYLLABICS SWI
CANADIAN SYLLABICS WEST-CREE SWI;CANADIAN SYLLABICS SWII;CANADIAN SYLLABICS WEST-CREE SWII
CANADIAN SYLLABICS SWO;CANADIAN SYLLABICS WEST-CREE SWO;CANADIAN SYLLABICS SWOO
CANADIAN SYLLABICS WEST-CREE SWOO;CANADIAN SYLLABICS SWA;CANADIAN SYLLABICS WEST-CREE SWA
CANADIAN SYLLABICS SWAA;CANADIAN SYLLABICS WEST-CREE SWAA;CANADIAN SYLLABICS NASKAPI SWAA
CANADIAN SYLLABICS S;CANADIAN SYLLABICS ATHAPASCAN S;CANADIAN SYLLABICS SW
CANADIAN SYLLABICS BLACKFOOT S;CANADIAN SYLLABICS MOOSE-CREE SK;CANADIAN SYLLABICS NASKAPI SKW
CANADIAN SYLLABICS NASKAPI S-W;CANADIAN SYLLABICS NASKAPI SPWA;CANADIAN SYLLABICS NASKAPI STWA
CANADIAN SYLLABICS NASKAPI SKWA;CANADIAN SYLLABICS NASKAPI SCWA;CANADIAN SYLLABICS SHE
CANADIAN SYLLABICS SHI;CANADIAN SYLLABICS SHII;CANADIAN SYLLABICS SHO;CANADIAN SYLLABICS SHOO
CANADIAN SYLLABICS SHA;CANADIAN SYLLABICS SHAA;CANADIAN SYLLABICS SHWE
CANADIAN SYLLABICS WEST-CREE SHWE;CANADIAN SYLLABICS SHWI;CANADIAN SYLLABICS WEST-CREE SHWI
CANADIAN SYLLABICS SHWII;CANADIAN SYLLABICS WEST-CREE SHWII;CANADIAN SYLLABICS SHWO
CANADIAN SYLLABICS WEST-CREE SHWO;CANADIAN SYLLABICS SHWOO;CANADIAN SYLLABICS WEST-CREE SHWOO
CANADIAN SYLLABICS SHWA;CANADIAN SYLLABICS WEST-CREE SHWA;CANADIAN SYLLABICS SHWAA
CANADIAN SYLLABICS WEST-CREE SHWAA;CANADIAN SYLLABICS SH;CANADIAN SYLLABICS YE
CANADIAN SYLLABICS YAAI;CANADIAN SYLLABICS YI;CANADIAN SYLLABICS YII;CANADIAN SYLLABICS YO
CANADIAN SYLLABICS YOO;CANADIAN SYLLABICS Y-CREE YOO;CANADIAN SYLLABICS YA;CANADIAN SYLLABICS YAA
CANADIAN SYLLABICS YWE;CANADIAN SYLLABICS WEST-CREE YWE;CANADIAN SYLLABICS YWI
CANADIAN SYLLABICS WEST-CREE YWI;CANADIAN SYLLABICS YWII;CANADIAN SYLLABICS WEST-CREE YWII
CANADIAN SYLLABICS YWO;CANADIAN SYLLABICS WEST-CREE YWO;CANADIAN SYLLABICS YWOO
CANADIAN SYLLABICS WEST-CREE YWOO;CANADIAN SYLLABICS YWA;CANADIAN SYLLABICS WEST-CREE YWA
CANADIAN SYLLABICS YWAA;CANADIAN SYLLABICS WEST-CREE YWAA;CANADIAN SYLLABICS NASKAPI YWAA
CANADIAN SYLLABICS Y;CANADIAN SYLLABICS BIBLE-CREE Y;CANADIAN SYLLABICS WEST-CREE Y
CANADIAN SYLLABICS SAYISI YI;CANADIAN SYLLABICS RE;CANADIAN SYLLABICS R-CREE RE
CANADIAN SYLLABICS WEST-CREE LE;CANADIAN SYLLABICS RAAI;CANADIAN SYLLABICS RI
CANADIAN SYLLABICS RII;CANADIAN SYLLABICS RO;CANADIAN SYLLABICS ROO
CANADIAN SYLLABICS WEST-CREE LO;CANADIAN SYLLABICS RA;CANADIAN SYLLABICS RAA
CANADIAN SYLLABICS WEST-CREE LA;CANADIAN SYLLABICS RWAA;CANADIAN SYLLABICS WEST-CREE RWAA
CANADIAN SYLLABICS R;CANADIAN SYLLABICS WEST-CREE R;CANADIAN SYLLABICS MEDIAL R
CANADIAN SYLLABICS FE;CANADIAN SYLLABICS FAAI;CANADIAN SYLLABICS FI;CANADIAN SYLLABICS FII
CANADIAN SYLLABICS FO;CANADIAN SYLLABICS FOO;CANADIAN SYLLABICS FA;CANADIAN SYLLABICS FAA
CANADIAN SYLLABICS FWAA;CANADIAN SYLLABICS WEST-CREE FWAA;CANADIAN SYLLABICS F
CANADIAN SYLLABICS THE;CANADIAN SYLLABICS N-CREE THE;CANADIAN SYLLABICS THI
CANADIAN SYLLABICS N-CREE THI;CANADIAN SYLLABICS THII;CANADIAN SYLLABICS N-CREE THII
CANADIAN SYLLABICS THO;CANADIAN SYLLABICS THOO;CANADIAN SYLLABICS THA;CANADIAN SYLLABICS THAA
CANADIAN SYLLABICS THWAA;CANADIAN SYLLABICS WEST-CREE THWAA;CANADIAN SYLLABICS TH
CANADIAN SYLLABICS TTHE;CANADIAN SYLLABICS TTHI;CANADIAN SYLLABICS TTHO;CANADIAN SYLLABICS TTHA
CANADIAN SYLLABICS TTH;CANADIAN SYLLABICS TYE;CANADIAN SYLLABICS TYI;CANADIAN SYLLABICS TYO
CANADIAN SYLLABICS TYA;CANADIAN SYLLABICS NUNAVIK HE;CANADIAN SYLLABICS NUNAVIK HI
CANADIAN SYLLABICS NUNAVIK HII;CANADIAN SYLLABICS NUNAVIK HO;CANADIAN SYLLABICS NUNAVIK HOO
CANADIAN SYLLABICS NUNAVIK HA;CANADIAN SYLLABICS NUNAVIK HAA;CANADIAN SYLLABICS NUNAVIK H
CANADIAN SYLLABICS NUNAVUT H;CANADIAN SYLLABICS HK;CANADIAN SYLLABICS QAAI;CANADIAN SYLLABICS QI
CANADIAN SYLLABICS QII;CANADIAN SYLLABICS QO;CANADIAN SYLLABICS QOO;CANADIAN SYLLABICS QA
CANADIAN SYLLABICS QAA;CANADIAN SYLLABICS Q;CANADIAN SYLLABICS TLHE;CANADIAN SYLLABICS TLHI
CANADIAN SYLLABICS TLHO;CANADIAN SYLLABICS TLHA;CANADIAN SYLLABICS WEST-CREE RE
CANADIAN SYLLABICS WEST-CREE RI;CANADIAN SYLLABICS WEST-CREE RO;CANADIAN SYLLABICS WEST-CREE RA
CANADIAN SYLLABICS NGAAI;CANADIAN SYLLABICS NGI;CANADIAN SYLLABICS NGII;CANADIAN SYLLABICS NGO
CANADIAN SYLLABICS NGOO;CANADIAN SYLLABICS NGA;CANADIAN SYLLABICS NGAA;CANADIAN SYLLABICS NG
CANADIAN SYLLABICS NNG;CANADIAN SYLLABICS SAYISI SHE;CANADIAN SYLLABICS SAYISI SHI
CANADIAN SYLLABICS SAYISI SHO;CANADIAN SYLLABICS SAYISI SHA;CANADIAN SYLLABICS WOODS-CREE THE
CANADIAN SYLLABICS WOODS-CREE THI;CANADIAN SYLLABICS WOODS-CREE THO
CANADIAN SYLLABICS WOODS-CREE THA;CANADIAN SYLLABICS WOODS-CREE TH;CANADIAN SYLLABICS LHI
CANADIAN SYLLABICS LHII;CANADIAN SYLLABICS LHO;CANADIAN SYLLABICS LHOO;CANADIAN SYLLABICS LHA
CANADIAN SYLLABICS LHAA;CANADIAN SYLLABICS LH;CANADIAN SYLLABICS TH-CREE THE
CANADIAN SYLLABICS TH-CREE THI;CANADIAN SYLLABICS TH-CREE THII;CANADIAN SYLLABICS TH-CREE THO
CANADIAN SYLLABICS TH-CREE THOO;CANADIAN SYLLABICS TH-CREE THA;CANADIAN SYLLABICS TH-CREE THAA
CANADIAN SYLLABICS TH-CREE TH;CANADIAN SYLLABICS AIVILIK B;CANADIAN SYLLABICS BLACKFOOT E
CANADIAN SYLLABICS BLACKFOOT I;CANADIAN SYLLABICS BLACKFOOT O;CANADIAN SYLLABICS BLACKFOOT A
CANADIAN SYLLABICS BLACKFOOT WE;CANADIAN SYLLABICS BLACKFOOT WI;CANADIAN SYLLABICS BLACKFOOT WO
CANADIAN SYLLABICS BLACKFOOT WA;CANADIAN SYLLABICS BLACKFOOT NE;CANADIAN SYLLABICS BLACKFOOT NI
CANADIAN SYLLABICS BLACKFOOT NO;CANADIAN SYLLABICS BLACKFOOT NA;CANADIAN SYLLABICS BLACKFOOT KE
CANADIAN SYLLABICS BLACKFOOT KI;CANADIAN SYLLABICS BLACKFOOT KO;CANADIAN SYLLABICS BLACKFOOT KA
CANADIAN SYLLABICS SAYISI HE;CANADIAN SYLLABICS SAYISI HI;CANADIAN SYLLABICS SAYISI HO
CANADIAN SYLLABICS SAYISI HA;CANADIAN SYLLABICS CARRIER GHU;CANADIAN SYLLABICS CARRIER GHO
CANADIAN SYLLABICS CARRIER GHE;CANADIAN SYLLABICS CARRIER GHEE;CANADIAN SYLLABICS CARRIER GHI
CANADIAN SYLLABICS CARRIER GHA;CANADIAN SYLLABICS CARRIER RU;CANADIAN SYLLABICS CARRIER RO
CANADIAN SYLLABICS CARRIER RE;CANADIAN SYLLABICS CARRIER REE;CANADIAN SYLLABICS CARRIER RI
CANADIAN SYLLABICS CARRIER RA;CANADIAN SYLLABICS CARRIER WU;CANADIAN SYLLABICS CARRIER WO
CANADIAN SYLLABICS CARRIER WE;CANADIAN SYLLABICS CARRIER WEE;CANADIAN SYLLABICS CARRIER WI
CANADIAN SYLLABICS CARRIER WA;CANADIAN SYLLABICS CARRIER HWU;CANADIAN SYLLABICS CARRIER HWO
CANADIAN SYLLABICS CARRIER HWE;CANADIAN SYLLABICS CARRIER HWEE;CANADIAN SYLLABICS CARRIER HWI
CANADIAN SYLLABICS CARRIER HWA;CANADIAN SYLLABICS CARRIER THU;CANADIAN SYLLABICS CARRIER THO
CANADIAN SYLLABICS CARRIER THE;CANADIAN SYLLABICS CARRIER THEE;CANADIAN SYLLABICS CARRIER THI
CANADIAN SYLLABICS CARRIER THA;CANADIAN SYLLABICS CARRIER TTU;CANADIAN SYLLABICS CARRIER TTO
CANADIAN SYLLABICS CARRIER TTE;CANADIAN SYLLABICS CARRIER TTEE;CANADIAN SYLLABICS CARRIER TTI
CANADIAN SYLLABICS CARRIER TTA;CANADIAN SYLLABICS CARRIER PU;CANADIAN SYLLABICS CARRIER PO
CANADIAN SYLLABICS CARRIER PE;CANADIAN SYLLABICS CARRIER PEE;CANADIAN SYLLABICS CARRIER PI
CANADIAN SYLLABICS CARRIER PA;CANADIAN SYLLABICS CARRIER P;CANADIAN SYLLABICS CARRIER GU
CANADIAN SYLLABICS CARRIER GO;CANADIAN SYLLABICS CARRIER GE;CANADIAN SYLLABICS CARRIER GEE
CANADIAN SYLLABICS CARRIER GI;CANADIAN SYLLABICS CARRIER GA;CANADIAN SYLLABICS CARRIER KHU
CANADIAN SYLLABICS CARRIER KHO;CANADIAN SYLLABICS CARRIER KHE;CANADIAN SYLLABICS CARRIER KHEE
CANADIAN SYLLABICS CARRIER KHI;CANADIAN SYLLABICS CARRIER KHA;CANADIAN SYLLABICS CARRIER KKU
CANADIAN SYLLABICS CARRIER KKO;CANADIAN SYLLABICS CARRIER KKE;CANADIAN SYLLABICS CARRIER KKEE
CANADIAN SYLLABICS CARRIER KKI;CANADIAN SYLLABICS CARRIER KKA;CANADIAN SYLLABICS CARRIER KK
CANADIAN SYLLABICS CARRIER NU;CANADIAN SYLLABICS CARRIER NO;CANADIAN SYLLABICS CARRIER NE
CANADIAN SYLLABICS CARRIER NEE;CANADIAN SYLLABICS CARRIER NI;CANADIAN SYLLABICS CARRIER NA
CANADIAN SYLLABICS CARRIER MU;CANADIAN SYLLABICS CARRIER MO;CANADIAN SYLLABICS CARRIER ME
CANADIAN SYLLABICS CARRIER MEE;CANADIAN SYLLABICS CARRIER MI;CANADIAN SYLLABICS CARRIER MA
CANADIAN SYLLABICS CARRIER YU;CANADIAN SYLLABICS CARRIER YO;CANADIAN SYLLABICS CARRIER YE
CANADIAN SYLLABICS CARRIER YEE;CANADIAN SYLLABICS CARRIER YI;CANADIAN SYLLABICS CARRIER YA
CANADIAN SYLLABICS CARRIER JU;CANADIAN SYLLABICS SAYISI JU;CANADIAN SYLLABICS CARRIER JO
CANADIAN SYLLABICS CARRIER JE;CANADIAN SYLLABICS CARRIER JEE;CANADIAN SYLLABICS CARRIER JI
CANADIAN SYLLABICS SAYISI JI;CANADIAN SYLLABICS CARRIER JA;CANADIAN SYLLABICS CARRIER JJU
CANADIAN SYLLABICS CARRIER JJO;CANADIAN SYLLABICS CARRIER JJE;CANADIAN SYLLABICS CARRIER JJEE
CANADIAN SYLLABICS CARRIER JJI;CANADIAN SYLLABICS CARRIER JJA;CANADIAN SYLLABICS CARRIER LU
CANADIAN SYLLABICS CARRIER LO;CANADIAN SYLLABICS CARRIER LE;CANADIAN SYLLABICS CARRIER LEE
CANADIAN SYLLABICS CARRIER LI;CANADIAN SYLLABICS CARRIER LA;CANADIAN SYLLABICS CARRIER DLU
CANADIAN SYLLABICS CARRIER DLO;CANADIAN SYLLABICS CARRIER DLE;CANADIAN SYLLABICS CARRIER DLEE
CANADIAN SYLLABICS CARRIER DLI;CANADIAN SYLLABICS CARRIER DLA;CANADIAN SYLLABICS CARRIER LHU
CANADIAN SYLLABICS CARRIER LHO;CANADIAN SYLLABICS CARRIER LHE;CANADIAN SYLLABICS CARRIER LHEE
CANADIAN SYLLABICS CARRIER LHI;CANADIAN SYLLABICS CARRIER LHA;CANADIAN SYLLABICS CARRIER TLHU
CANADIAN SYLLABICS CARRIER TLHO;CANADIAN SYLLABICS CARRIER TLHE;CANADIAN SYLLABICS CARRIER TLHEE
CANADIAN SYLLABICS CARRIER TLHI;CANADIAN SYLLABICS CARRIER TLHA;CANADIAN SYLLABICS CARRIER TLU
CANADIAN SYLLABICS CARRIER TLO;CANADIAN SYLLABICS CARRIER TLE;CANADIAN SYLLABICS CARRIER TLEE
CANADIAN SYLLABICS CARRIER TLI;CANADIAN SYLLABICS CARRIER TLA;CANADIAN SYLLABICS CARRIER ZU
CANADIAN SYLLABICS CARRIER ZO;CANADIAN SYLLABICS CARRIER ZE;CANADIAN SYLLABICS CARRIER ZEE
CANADIAN SYLLABICS CARRIER ZI;CANADIAN SYLLABICS CARRIER ZA;CANADIAN SYLLABICS CARRIER Z
CANADIAN SYLLABICS CARRIER INITIAL Z;CANADIAN SYLLABICS CARRIER DZU
CANADIAN SYLLABICS CARRIER DZO;CANADIAN SYLLABICS CARRIER DZE;CANADIAN SYLLABICS CARRIER DZEE
CANADIAN SYLLABICS CARRIER DZI;CANADIAN SYLLABICS CARRIER DZA;CANADIAN SYLLABICS CARRIER SU
CANADIAN SYLLABICS CARRIER SO;CANADIAN SYLLABICS CARRIER SE;CANADIAN SYLLABICS CARRIER SEE
CANADIAN SYLLABICS CARRIER SI;CANADIAN SYLLABICS CARRIER SA;CANADIAN SYLLABICS CARRIER SHU
CANADIAN SYLLABICS CARRIER SHO;CANADIAN SYLLABICS CARRIER SHE;CANADIAN SYLLABICS CARRIER SHEE
CANADIAN SYLLABICS CARRIER SHI;CANADIAN SYLLABICS CARRIER SHA;CANADIAN SYLLABICS CARRIER SH
CANADIAN SYLLABICS CARRIER TSU;CANADIAN SYLLABICS CARRIER TSO;CANADIAN SYLLABICS CARRIER TSE
CANADIAN SYLLABICS CARRIER TSEE;CANADIAN SYLLABICS CARRIER TSI;CANADIAN SYLLABICS CARRIER TSA
CANADIAN SYLLABICS CARRIER CHU;CANADIAN SYLLABICS CARRIER CHO;CANADIAN SYLLABICS CARRIER CHE
CANADIAN SYLLABICS CARRIER CHEE;CANADIAN SYLLABICS CARRIER CHI;CANADIAN SYLLABICS CARRIER CHA
CANADIAN SYLLABICS CARRIER TTSU;CANADIAN SYLLABICS CARRIER TTSO;CANADIAN SYLLABICS CARRIER TTSE
CANADIAN SYLLABICS CARRIER TTSEE;CANADIAN SYLLABICS CARRIER TTSI;CANADIAN SYLLABICS CARRIER TTSA
CANADIAN SYLLABICS CHI SIGN;CANADIAN SYLLABICS FULL STOP;CANADIAN SYLLABICS QAI
CANADIAN SYLLABICS NGAI;CANADIAN SYLLABICS NNGI;CANADIAN SYLLABICS NNGII;CANADIAN SYLLABICS NNGO
CANADIAN SYLLABICS NNGOO;CANADIAN SYLLABICS NNGA;CANADIAN SYLLABICS NNGAA
CANADIAN SYLLABICS WOODS-CREE THWEE;CANADIAN SYLLABICS WOODS-CREE THWI
CANADIAN SYLLABICS WOODS-CREE THWII;CANADIAN SYLLABICS WOODS-CREE THWO
CANADIAN SYLLABICS WOODS-CREE THWOO;CANADIAN SYLLABICS WOODS-CREE THWA
CANADIAN SYLLABICS WOODS-CREE THWAA;CANADIAN SYLLABICS WOODS-CREE FINAL TH
CANADIAN SYLLABICS BLACKFOOT W;OGHAM SPACE MARK;OGHAM LETTER BEITH;OGHAM LETTER LUIS
OGHAM LETTER FEARN;OGHAM LETTER SAIL;OGHAM LETTER NION;OGHAM LETTER UATH;OGHAM LETTER DAIR
OGHAM LETTER TINNE;OGHAM LETTER COLL;OGHAM LETTER CEIRT;OGHAM LETTER MUIN;OGHAM LETTER GORT
OGHAM LETTER NGEADAL;OGHAM LETTER STRAIF;OGHAM LETTER RUIS;OGHAM LETTER AILM;OGHAM LETTER ONN
OGHAM LETTER UR;OGHAM LETTER EADHADH;OGHAM LETTER IODHADH;OGHAM LETTER EABHADH;OGHAM LETTER OR
OGHAM LETTER UILLEANN;OGHAM LETTER IFIN;OGHAM LETTER EAMHANCHOLL;OGHAM LETTER PEITH
OGHAM FEATHER MARK;OGHAM REVERSED FEATHER MARK"),
  (0x16a0, "RUNIC LETTER FEHU FEOH FE F;RUNIC LETTER V;RUNIC LETTER URUZ UR U;RUNIC LETTER YR
RUNIC LETTER Y;RUNIC LETTER W;RUNIC LETTER THURISAZ THURS THORN;RUNIC LETTER ETH
RUNIC LETTER ANSUZ A;RUNIC LETTER OS O;RUNIC LETTER AC A;RUNIC LETTER AESC
RUNIC LETTER LONG-BRANCH-OSS O;RUNIC LETTER SHORT-TWIG-OSS O;RUNIC LETTER O;RUNIC LETTER OE
RUNIC LETTER ON;RUNIC LETTER RAIDO RAD REID R;RUNIC LETTER KAUNA;RUNIC LETTER CEN
RUNIC LETTER KAUN K;RUNIC LETTER G;RUNIC LETTER ENG;RUNIC LETTER GEBO GYFU G;RUNIC LETTER GAR
RUNIC LETTER WUNJO WYNN W;RUNIC LETTER HAGLAZ H;RUNIC LETTER HAEGL H
RUNIC LETTER LONG-BRANCH-HAGALL H;RUNIC LETTER SHORT-TWIG-HAGALL H;RUNIC LETTER NAUDIZ NYD NAUD N
RUNIC LETTER SHORT-TWIG-NAUD N;RUNIC LETTER DOTTED-N;RUNIC LETTER ISAZ IS ISS I;RUNIC LETTER E
RUNIC LETTER JERAN J;RUNIC LETTER GER;RUNIC LETTER LONG-BRANCH-AR AE;RUNIC LETTER SHORT-TWIG-AR A
RUNIC LETTER IWAZ EOH;RUNIC LETTER PERTHO PEORTH P;RUNIC LETTER ALGIZ EOLHX;RUNIC LETTER SOWILO S
RUNIC LETTER SIGEL LONG-BRANCH-SOL S;RUNIC LETTER SHORT-TWIG-SOL S;RUNIC LETTER C;RUNIC LETTER Z
RUNIC LETTER TIWAZ TIR TYR T;RUNIC LETTER SHORT-TWIG-TYR T;RUNIC LETTER D
RUNIC LETTER BERKANAN BEORC BJARKAN B;RUNIC LETTER SHORT-TWIG-BJARKAN B;RUNIC LETTER DOTTED-P
RUNIC LETTER OPEN-P;RUNIC LETTER EHWAZ EH E;RUNIC LETTER MANNAZ MAN M
RUNIC LETTER LONG-BRANCH-MADR M;RUNIC LETTER SHORT-TWIG-MADR M;RUNIC LETTER LAUKAZ LAGU LOGR L
RUNIC LETTER DOTTED-L;RUNIC LETTER INGWAZ;RUNIC LETTER ING;RUNIC LETTER DAGAZ DAEG D
RUNIC LETTER OTHALAN ETHEL O;RUNIC LETTER EAR;RUNIC LETTER IOR;RUNIC LETTER CWEORTH
RUNIC LETTER CALC;RUNIC LETTER CEALC;RUNIC LETTER STAN;RUNIC LETTER LONG-BRANCH-YR
RUNIC LETTER SHORT-TWIG-YR;RUNIC LETTER ICELANDIC-YR;RUNIC LETTER Q;RUNIC LETTER X
RUNIC SINGLE PUNCTUATION;RUNIC MULTIPLE PUNCTUATION;RUNIC CROSS PUNCTUATION;RUNIC ARLAUG SYMBOL
RUNIC TVIMADUR SYMBOL;RUNIC BELGTHOR SYMBOL;RUNIC LETTER K;RUNIC LETTER SH;RUNIC LETTER OO
RUNIC LETTER FRANKS CASKET OS;RUNIC LETTER FRANKS CASKET IS;RUNIC LETTER FRANKS CASKET EH
RUNIC LETTER FRANKS CASKET AC;RUNIC LETTER FRANKS CASKET AESC"),
  (0x1700, "TAGALOG LETTER A;TAGALOG LETTER I;TAGALOG LETTER U;TAGALOG LETTER KA
TAGALOG LETTER GA;TAGALOG LETTER NGA;TAGALOG LETTER TA;TAGALOG LETTER DA;TAGALOG LETTER NA
TAGALOG LETTER PA;TAGALOG LETTER BA;TAGALOG LETTER MA;TAGALOG LETTER YA;TAGALOG LETTER RA
TAGALOG LETTER LA;TAGALOG LETTER WA;TAGALOG LETTER SA;TAGALOG LETTER HA;TAGALOG VOWEL SIGN I
TAGALOG VOWEL SIGN U;TAGALOG SIGN VIRAMA;TAGALOG SIGN PAMUDPOD"),
  (0x171f, "TAGALOG LETTER ARCHAIC RA;HANUNOO LETTER A;HANUNOO LETTER I;HANUNOO LETTER U
HANUNOO LETTER KA;HANUNOO LETTER GA;HANUNOO LETTER NGA;HANUNOO LETTER TA;HANUNOO LETTER DA
HANUNOO LETTER NA;HANUNOO LETTER PA;HANUNOO LETTER BA;HANUNOO LETTER MA;HANUNOO LETTER YA
HANUNOO LETTER RA;HANUNOO LETTER LA;HANUNOO LETTER WA;HANUNOO LETTER SA;HANUNOO LETTER HA
HANUNOO VOWEL SIGN I;HANUNOO VOWEL SIGN U;HANUNOO SIGN PAMUDPOD;PHILIPPINE SINGLE PUNCTUATION
PHILIPPINE DOUBLE PUNCTUATION"),
  (0x1740, "BUHID LETTER A;BUHID LETTER I;BUHID LETTER U;BUHID LETTER KA;BUHID LETTER GA
BUHID LETTER NGA;BUHID LETTER TA;BUHID LETTER DA;BUHID LETTER NA;BUHID LETTER PA;BUHID LETTER BA
BUHID LETTER MA;BUHID LETTER YA;BUHID LETTER RA;BUHID LETTER LA;BUHID LETTER WA;BUHID LETTER SA
BUHID LETTER HA;BUHID VOWEL SIGN I;BUHID VOWEL SIGN U"),
  (0x1760, "TAGBANWA LETTER A;TAGBANWA LETTER I;TAGBANWA LETTER U;TAGBANWA LETTER KA
TAGBANWA LETTER GA;TAGBANWA LETTER NGA;TAGBANWA LETTER TA;TAGBANWA LETTER DA;TAGBANWA LETTER NA
TAGBANWA LETTER PA;TAGBANWA LETTER BA;TAGBANWA LETTER MA;TAGBANWA LETTER YA"),
  (0x176e, "TAGBANWA LETTER LA;TAGBANWA LETTER WA;TAGBANWA LETTER SA"),
  (0x1772, "TAGBANWA VOWEL SIGN I;TAGBANWA VOWEL SIGN U"),
  (0x1780, "KHMER LETTER KA;KHMER LETTER KHA;KHMER LETTER KO;KHMER LETTER KHO;KHMER LETTER NGO
KHMER LETTER CA;KHMER LETTER CHA;KHMER LETTER CO;KHMER LETTER CHO;KHMER LETTER NYO
KHMER LETTER DA;KHMER LETTER TTHA;KHMER LETTER DO;KHMER LETTER TTHO;KHMER LETTER NNO
KHMER LETTER TA;KHMER LETTER THA;KHMER LETTER TO;KHMER LETTER THO;KHMER LETTER NO;KHMER LETTER BA
KHMER LETTER PHA;KHMER LETTER PO;KHMER LETTER PHO;KHMER LETTER MO;KHMER LETTER YO;KHMER LETTER RO
KHMER LETTER LO;KHMER LETTER VO;KHMER LETTER SHA;KHMER LETTER SSO;KHMER LETTER SA;KHMER LETTER HA
KHMER LETTER LA;KHMER LETTER QA;KHMER INDEPENDENT VOWEL QAQ;KHMER INDEPENDENT VOWEL QAA
KHMER INDEPENDENT VOWEL QI;KHMER INDEPENDENT VOWEL QII;KHMER INDEPENDENT VOWEL QU
KHMER INDEPENDENT VOWEL QUK;KHMER INDEPENDENT VOWEL QUU;KHMER INDEPENDENT VOWEL QUUV
KHMER INDEPENDENT VOWEL RY;KHMER INDEPENDENT VOWEL RYY;KHMER INDEPENDENT VOWEL LY
KHMER INDEPENDENT VOWEL LYY;KHMER INDEPENDENT VOWEL QE;KHMER INDEPENDENT VOWEL QAI
KHMER INDEPENDENT VOWEL QOO TYPE ONE;KHMER INDEPENDENT VOWEL QOO TYPE TWO
KHMER INDEPENDENT VOWEL QAU;KHMER VOWEL INHERENT AQ;KHMER VOWEL INHERENT AA;KHMER VOWEL SIGN AA
KHMER VOWEL SIGN I;KHMER VOWEL SIGN II;KHMER VOWEL SIGN Y;KHMER VOWEL SIGN YY;KHMER VOWEL SIGN U
KHMER VOWEL SIGN UU;KHMER VOWEL SIGN UA;KHMER VOWEL SIGN OE;KHMER VOWEL SIGN YA
KHMER VOWEL SIGN IE;KHMER VOWEL SIGN E;KHMER VOWEL SIGN AE;KHMER VOWEL SIGN AI
KHMER VOWEL SIGN OO;KHMER VOWEL SIGN AU;KHMER SIGN NIKAHIT;KHMER SIGN REAHMUK
KHMER SIGN YUUKALEAPINTU;KHMER SIGN MUUSIKATOAN;KHMER SIGN TRIISAP;KHMER SIGN BANTOC
KHMER SIGN ROBAT;KHMER SIGN TOANDAKHIAT;KHMER SIGN KAKABAT;KHMER SIGN AHSDA
KHMER SIGN SAMYOK SANNYA;KHMER SIGN VIRIAM;KHMER SIGN COENG;KHMER SIGN BATHAMASAT;KHMER SIGN KHAN
KHMER SIGN BARIYOOSAN;KHMER SIGN CAMNUC PII KUUH;KHMER SIGN LEK TOO;KHMER SIGN BEYYAL
KHMER SIGN PHNAEK MUAN;KHMER SIGN KOOMUUT;KHMER CURRENCY SYMBOL RIEL;KHMER SIGN AVAKRAHASANYA
KHMER SIGN ATTHACAN"),
  (0x17e0, "KHMER DIGIT ZERO;KHMER DIGIT ONE;KHMER DIGIT TWO;KHMER DIGIT THREE;KHMER DIGIT FOUR
KHMER DIGIT FIVE;KHMER DIGIT SIX;KHMER DIGIT SEVEN;KHMER DIGIT EIGHT;KHMER DIGIT NINE"),
  (0x17f0, "KHMER SYMBOL LEK ATTAK SON;KHMER SYMBOL LEK ATTAK MUOY;KHMER SYMBOL LEK ATTAK PII
KHMER SYMBOL LEK ATTAK BEI;KHMER SYMBOL LEK ATTAK BUON;KHMER SYMBOL LEK ATTAK PRAM
KHMER SYMBOL LEK ATTAK PRAM-MUOY;KHMER SYMBOL LEK ATTAK PRAM-PII;KHMER SYMBOL LEK ATTAK PRAM-BEI
KHMER SYMBOL LEK ATTAK PRAM-BUON"),
  (0x1800, "MONGOLIAN BIRGA;MONGOLIAN ELLIPSIS;MONGOLIAN COMMA;MONGOLIAN FULL STOP
MONGOLIAN COLON;MONGOLIAN FOUR DOTS;MONGOLIAN TODO SOFT HYPHEN
MONGOLIAN SIBE SYLLABLE BOUNDARY MARKER;MONGOLIAN MANCHU COMMA;MONGOLIAN MANCHU FULL STOP
MONGOLIAN NIRUGU;MONGOLIAN FREE VARIATION SELECTOR ONE;MONGOLIAN FREE VARIATION SELECTOR TWO
MONGOLIAN FREE VARIATION SELECTOR THREE;MONGOLIAN VOWEL SEPARATOR
MONGOLIAN FREE VARIATION SELECTOR FOUR;MONGOLIAN DIGIT ZERO;MONGOLIAN DIGIT ONE
MONGOLIAN DIGIT TWO;MONGOLIAN DIGIT THREE;MONGOLIAN DIGIT FOUR;MONGOLIAN DIGIT FIVE
MONGOLIAN DIGIT SIX;MONGOLIAN DIGIT SEVEN;MONGOLIAN DIGIT EIGHT;MONGOLIAN DIGIT NINE"),
  (0x1820, "MONGOLIAN LETTER A;MONGOLIAN LETTER E;MONGOLIAN LETTER I;MONGOLIAN LETTER O
MONGOLIAN LETTER U;MONGOLIAN LETTER OE;MONGOLIAN LETTER UE;MONGOLIAN LETTER EE
MONGOLIAN LETTER NA;MONGOLIAN LETTER ANG;MONGOLIAN LETTER BA;MONGOLIAN LETTER PA
MONGOLIAN LETTER QA;MONGOLIAN LETTER GA;MONGOLIAN LETTER MA;MONGOLIAN LETTER LA
MONGOLIAN LETTER SA;MONGOLIAN LETTER SHA;MONGOLIAN LETTER TA;MONGOLIAN LETTER DA
MONGOLIAN LETTER CHA;MONGOLIAN LETTER JA;MONGOLIAN LETTER YA;MONGOLIAN LETTER RA
MONGOLIAN LETTER WA;MONGOLIAN LETTER FA;MONGOLIAN LETTER KA;MONGOLIAN LETTER KHA
MONGOLIAN LETTER TSA;MONGOLIAN LETTER ZA;MONGOLIAN LETTER HAA;MONGOLIAN LETTER ZRA
MONGOLIAN LETTER LHA;MONGOLIAN LETTER ZHI;MONGOLIAN LETTER CHI
MONGOLIAN LETTER TODO LONG VOWEL SIGN;MONGOLIAN LETTER TODO E;MONGOLIAN LETTER TODO I
MONGOLIAN LETTER TODO O;MONGOLIAN LETTER TODO U;MONGOLIAN LETTER TODO OE;MONGOLIAN LETTER TODO UE
MONGOLIAN LETTER TODO ANG;MONGOLIAN LETTER TODO BA;MONGOLIAN LETTER TODO PA
MONGOLIAN LETTER TODO QA;MONGOLIAN LETTER TODO GA;MONGOLIAN LETTER TODO MA
MONGOLIAN LETTER TODO TA;MONGOLIAN LETTER TODO DA;MONGOLIAN LETTER TODO CHA
MONGOLIAN LETTER TODO JA;MONGOLIAN LETTER TODO TSA;MONGOLIAN LETTER TODO YA
MONGOLIAN LETTER TODO WA;MONGOLIAN LETTER TODO KA;MONGOLIAN LETTER TODO GAA
MONGOLIAN LETTER TODO HAA;MONGOLIAN LETTER TODO JIA;MONGOLIAN LETTER TODO NIA
MONGOLIAN LETTER TODO DZA;MONGOLIAN LETTER SIBE E;MONGOLIAN LETTER SIBE I
MONGOLIAN LETTER SIBE IY;MONGOLIAN LETTER SIBE UE;MONGOLIAN LETTER SIBE U
MONGOLIAN LETTER SIBE ANG;MONGOLIAN LETTER SIBE KA;MONGOLIAN LETTER SIBE GA
MONGOLIAN LETTER SIBE HA;MONGOLIAN LETTER SIBE PA;MONGOLIAN LETTER SIBE SHA
MONGOLIAN LETTER SIBE TA;MONGOLIAN LETTER SIBE DA;MONGOLIAN LETTER SIBE JA
MONGOLIAN LETTER SIBE FA;MONGOLIAN LETTER SIBE GAA;MONGOLIAN LETTER SIBE HAA
MONGOLIAN LETTER SIBE TSA;MONGOLIAN LETTER SIBE ZA;MONGOLIAN LETTER SIBE RAA
MONGOLIAN LETTER SIBE CHA;MONGOLIAN LETTER SIBE ZHA;MONGOLIAN LETTER MANCHU I
MONGOLIAN LETTER MANCHU KA;MONGOLIAN LETTER MANCHU RA;MONGOLIAN LETTER MANCHU FA
MONGOLIAN LETTER MANCHU ZHA;MONGOLIAN LETTER CHA WITH TWO DOTS"),
  (0x1880, "MONGOLIAN LETTER ALI GALI ANUSVARA ONE;MONGOLIAN LETTER ALI GALI VISARGA ONE
MONGOLIAN LETTER ALI GALI DAMARU;MONGOLIAN LETTER ALI GALI UBADAMA
MONGOLIAN LETTER ALI GALI INVERTED UBADAMA;MONGOLIAN LETTER ALI GALI BALUDA
MONGOLIAN LETTER ALI GALI THREE BALUDA;MONGOLIAN LETTER ALI GALI A;MONGOLIAN LETTER ALI GALI I
MONGOLIAN LETTER ALI GALI KA;MONGOLIAN LETTER ALI GALI NGA;MONGOLIAN LETTER ALI GALI CA
MONGOLIAN LETTER ALI GALI TTA;MONGOLIAN LETTER ALI GALI TTHA;MONGOLIAN LETTER ALI GALI DDA
MONGOLIAN LETTER ALI GALI NNA;MONGOLIAN LETTER ALI GALI TA;MONGOLIAN LETTER ALI GALI DA
MONGOLIAN LETTER ALI GALI PA;MONGOLIAN LETTER ALI GALI PHA;MONGOLIAN LETTER ALI GALI SSA
MONGOLIAN LETTER ALI GALI ZHA;MONGOLIAN LETTER ALI GALI ZA;MONGOLIAN LETTER ALI GALI AH
MONGOLIAN LETTER TODO ALI GALI TA;MONGOLIAN LETTER TODO ALI GALI ZHA
MONGOLIAN LETTER MANCHU ALI GALI GHA;MONGOLIAN LETTER MANCHU ALI GALI NGA
MONGOLIAN LETTER MANCHU ALI GALI CA;MONGOLIAN LETTER MANCHU ALI GALI JHA
MONGOLIAN LETTER MANCHU ALI GALI TTA;MONGOLIAN LETTER MANCHU ALI GALI DDHA
MONGOLIAN LETTER MANCHU ALI GALI TA;MONGOLIAN LETTER MANCHU ALI GALI DHA
MONGOLIAN LETTER MANCHU ALI GALI SSA;MONGOLIAN LETTER MANCHU ALI GALI CYA
MONGOLIAN LETTER MANCHU ALI GALI ZHA;MONGOLIAN LETTER MANCHU ALI GALI ZA
MONGOLIAN LETTER ALI GALI HALF U;MONGOLIAN LETTER ALI GALI HALF YA
MONGOLIAN LETTER MANCHU ALI GALI BHA;MONGOLIAN LETTER ALI GALI DAGALGA
MONGOLIAN LETTER MANCHU ALI GALI LHA"),
  (0x18b0, "CANADIAN SYLLABICS OY;CANADIAN SYLLABICS AY;CANADIAN SYLLABICS AAY
CANADIAN SYLLABICS WAY;CANADIAN SYLLABICS POY;CANADIAN SYLLABICS PAY;CANADIAN SYLLABICS PWOY
CANADIAN SYLLABICS TAY;CANADIAN SYLLABICS KAY;CANADIAN SYLLABICS KWAY;CANADIAN SYLLABICS MAY
CANADIAN SYLLABICS NOY;CANADIAN SYLLABICS NAY;CANADIAN SYLLABICS LAY;CANADIAN SYLLABICS SOY
CANADIAN SYLLABICS SAY;CANADIAN SYLLABICS SHOY;CANADIAN SYLLABICS SHAY;CANADIAN SYLLABICS SHWOY
CANADIAN SYLLABICS YOY;CANADIAN SYLLABICS YAY;CANADIAN SYLLABICS RAY;CANADIAN SYLLABICS NWI
CANADIAN SYLLABICS OJIBWAY NWI;CANADIAN SYLLABICS NWII;CANADIAN SYLLABICS OJIBWAY NWII
CANADIAN SYLLABICS NWO;CANADIAN SYLLABICS OJIBWAY NWO;CANADIAN SYLLABICS NWOO
CANADIAN SYLLABICS OJIBWAY NWOO;CANADIAN SYLLABICS RWEE;CANADIAN SYLLABICS RWI
CANADIAN SYLLABICS RWII;CANADIAN SYLLABICS RWO;CANADIAN SYLLABICS RWOO;CANADIAN SYLLABICS RWA
CANADIAN SYLLABICS OJIBWAY P;CANADIAN SYLLABICS OJIBWAY T;CANADIAN SYLLABICS OJIBWAY K
CANADIAN SYLLABICS OJIBWAY C;CANADIAN SYLLABICS OJIBWAY M;CANADIAN SYLLABICS OJIBWAY N
CANADIAN SYLLABICS OJIBWAY S;CANADIAN SYLLABICS OJIBWAY SH;CANADIAN SYLLABICS EASTERN W
CANADIAN SYLLABICS WESTERN W;CANADIAN SYLLABICS FINAL SMALL RING
CANADIAN SYLLABICS FINAL RAISED DOT;CANADIAN SYLLABICS R-CREE RWE
CANADIAN SYLLABICS WEST-CREE LOO;CANADIAN SYLLABICS WEST-CREE LAA;CANADIAN SYLLABICS THWE
CANADIAN SYLLABICS THWA;CANADIAN SYLLABICS TTHWE;CANADIAN SYLLABICS TTHOO
CANADIAN SYLLABICS TTHAA;CANADIAN SYLLABICS TLHWE;CANADIAN SYLLABICS TLHOO
CANADIAN SYLLABICS SAYISI SHWE;CANADIAN SYLLABICS SAYISI SHOO;CANADIAN SYLLABICS SAYISI HOO
CANADIAN SYLLABICS CARRIER GWU;CANADIAN SYLLABICS CARRIER DENE GEE;CANADIAN SYLLABICS CARRIER GAA
CANADIAN SYLLABICS CARRIER GWA;CANADIAN SYLLABICS SAYISI JUU;CANADIAN SYLLABICS CARRIER JWA
CANADIAN SYLLABICS BEAVER DENE L;CANADIAN SYLLABICS BEAVER DENE R
CANADIAN SYLLABICS CARRIER DENTAL S"),
  (0x1900, "LIMBU VOWEL-CARRIER LETTER;LIMBU LETTER KA;LIMBU LETTER KHA;LIMBU LETTER GA
LIMBU LETTER GHA;LIMBU LETTER NGA;LIMBU LETTER CA;LIMBU LETTER CHA;LIMBU LETTER JA
LIMBU LETTER JHA;LIMBU LETTER YAN;LIMBU LETTER TA;LIMBU LETTER THA;LIMBU LETTER DA
LIMBU LETTER DHA;LIMBU LETTER NA;LIMBU LETTER PA;LIMBU LETTER PHA;LIMBU LETTER BA
LIMBU LETTER BHA;LIMBU LETTER MA;LIMBU LETTER YA;LIMBU LETTER RA;LIMBU LETTER LA;LIMBU LETTER WA
LIMBU LETTER SHA;LIMBU LETTER SSA;LIMBU LETTER SA;LIMBU LETTER HA;LIMBU LETTER GYAN
LIMBU LETTER TRA"),
  (0x1920, "LIMBU VOWEL SIGN A;LIMBU VOWEL SIGN I;LIMBU VOWEL SIGN U;LIMBU VOWEL SIGN EE
LIMBU VOWEL SIGN AI;LIMBU VOWEL SIGN OO;LIMBU VOWEL SIGN AU;LIMBU VOWEL SIGN E;LIMBU VOWEL SIGN O
LIMBU SUBJOINED LETTER YA;LIMBU SUBJOINED LETTER RA;LIMBU SUBJOINED LETTER WA"),
  (0x1930, "LIMBU SMALL LETTER KA;LIMBU SMALL LETTER NGA;LIMBU SMALL LETTER ANUSVARA
LIMBU SMALL LETTER TA;LIMBU SMALL LETTER NA;LIMBU SMALL LETTER PA;LIMBU SMALL LETTER MA
LIMBU SMALL LETTER RA;LIMBU SMALL LETTER LA;LIMBU SIGN MUKPHRENG;LIMBU SIGN KEMPHRENG
LIMBU SIGN SA-I"),
  (0x1940, "LIMBU SIGN LOO"),
  (0x1944, "LIMBU EXCLAMATION MARK;LIMBU QUESTION MARK;LIMBU DIGIT ZERO;LIMBU DIGIT ONE
LIMBU DIGIT TWO;LIMBU DIGIT THREE;LIMBU DIGIT FOUR;LIMBU DIGIT FIVE;LIMBU DIGIT SIX
LIMBU DIGIT SEVEN;LIMBU DIGIT EIGHT;LIMBU DIGIT NINE;TAI LE LETTER KA;TAI LE LETTER XA
TAI LE LETTER NGA;TAI LE LETTER TSA;TAI LE LETTER SA;TAI LE LETTER YA;TAI LE LETTER TA
TAI LE LETTER THA;TAI LE LETTER LA;TAI LE LETTER PA;TAI LE LETTER PHA;TAI LE LETTER MA
TAI LE LETTER FA;TAI LE LETTER VA;TAI LE LETTER HA;TAI LE LETTER QA;TAI LE LETTER KHA
TAI LE LETTER TSHA;TAI LE LETTER NA;TAI LE LETTER A;TAI LE LETTER I;TAI LE LETTER EE
TAI LE LETTER EH;TAI LE LETTER U;TAI LE LETTER OO;TAI LE LETTER O;TAI LE LETTER UE
TAI LE LETTER E;TAI LE LETTER AUE;TAI LE LETTER AI"),
  (0x1970, "TAI LE LETTER TONE-2;TAI LE LETTER TONE-3;TAI LE LETTER TONE-4;TAI LE LETTER TONE-5
TAI LE LETTER TONE-6"),
  (0x1980, "NEW TAI LUE LETTER HIGH QA;NEW TAI LUE LETTER LOW QA;NEW TAI LUE LETTER HIGH KA
NEW TAI LUE LETTER HIGH XA;NEW TAI LUE LETTER HIGH NGA;NEW TAI LUE LETTER LOW KA
NEW TAI LUE LETTER LOW XA;NEW TAI LUE LETTER LOW NGA;NEW TAI LUE LETTER HIGH TSA
NEW TAI LUE LETTER HIGH SA;NEW TAI LUE LETTER HIGH YA;NEW TAI LUE LETTER LOW TSA
NEW TAI LUE LETTER LOW SA;NEW TAI LUE LETTER LOW YA;NEW TAI LUE LETTER HIGH TA
NEW TAI LUE LETTER HIGH THA;NEW TAI LUE LETTER HIGH NA;NEW TAI LUE LETTER LOW TA
NEW TAI LUE LETTER LOW THA;NEW TAI LUE LETTER LOW NA;NEW TAI LUE LETTER HIGH PA
NEW TAI LUE LETTER HIGH PHA;NEW TAI LUE LETTER HIGH MA;NEW TAI LUE LETTER LOW PA
NEW TAI LUE LETTER LOW PHA;NEW TAI LUE LETTER LOW MA;NEW TAI LUE LETTER HIGH FA
NEW TAI LUE LETTER HIGH VA;NEW TAI LUE LETTER HIGH LA;NEW TAI LUE LETTER LOW FA
NEW TAI LUE LETTER LOW VA;NEW TAI LUE LETTER LOW LA;NEW TAI LUE LETTER HIGH HA
NEW TAI LUE LETTER HIGH DA;NEW TAI LUE LETTER HIGH BA;NEW TAI LUE LETTER LOW HA
NEW TAI LUE LETTER LOW DA;NEW TAI LUE LETTER LOW BA;NEW TAI LUE LETTER HIGH KVA
NEW TAI LUE LETTER HIGH XVA;NEW TAI LUE LETTER LOW KVA;NEW TAI LUE LETTER LOW XVA
NEW TAI LUE LETTER HIGH SUA;NEW TAI LUE LETTER LOW SUA"),
  (0x19b0, "NEW TAI LUE VOWEL SIGN VOWEL SHORTENER;NEW TAI LUE VOWEL SIGN AA
NEW TAI LUE VOWEL SIGN II;NEW TAI LUE VOWEL SIGN U;NEW TAI LUE VOWEL SIGN UU
NEW TAI LUE VOWEL SIGN E;NEW TAI LUE VOWEL SIGN AE;NEW TAI LUE VOWEL SIGN O
NEW TAI LUE VOWEL SIGN OA;NEW TAI LUE VOWEL SIGN UE;NEW TAI LUE VOWEL SIGN AY
NEW TAI LUE VOWEL SIGN AAY;NEW TAI LUE VOWEL SIGN UY;NEW TAI LUE VOWEL SIGN OY
NEW TAI LUE VOWEL SIGN OAY;NEW TAI LUE VOWEL SIGN UEY;NEW TAI LUE VOWEL SIGN IY
NEW TAI LUE LETTER FINAL V;NEW TAI LUE LETTER FINAL NG;NEW TAI LUE LETTER FINAL N
NEW TAI LUE LETTER FINAL M;NEW TAI LUE LETTER FINAL K;NEW TAI LUE LETTER FINAL D
NEW TAI LUE LETTER FINAL B;NEW TAI LUE TONE MARK-1;NEW TAI LUE TONE MARK-2"),
  (0x19d0, "NEW TAI LUE DIGIT ZERO;NEW TAI LUE DIGIT ONE;NEW TAI LUE DIGIT TWO
NEW TAI LUE DIGIT THREE;NEW TAI LUE DIGIT FOUR;NEW TAI LUE DIGIT FIVE;NEW TAI LUE DIGIT SIX
NEW TAI LUE DIGIT SEVEN;NEW TAI LUE DIGIT EIGHT;NEW TAI LUE DIGIT NINE;NEW TAI LUE THAM DIGIT ONE"),
  (0x19de, "NEW TAI LUE SIGN LAE;NEW TAI LUE SIGN LAEV;KHMER SYMBOL PATHAMASAT
KHMER SYMBOL MUOY KOET;KHMER SYMBOL PII KOET;KHMER SYMBOL BEI KOET;KHMER SYMBOL BUON KOET
KHMER SYMBOL PRAM KOET;KHMER SYMBOL PRAM-MUOY KOET;KHMER SYMBOL PRAM-PII KOET
KHMER SYMBOL PRAM-BEI KOET;KHMER SYMBOL PRAM-BUON KOET;KHMER SYMBOL DAP KOET
KHMER SYMBOL DAP-MUOY KOET;KHMER SYMBOL DAP-PII KOET;KHMER SYMBOL DAP-BEI KOET
KHMER SYMBOL DAP-BUON KOET;KHMER SYMBOL DAP-PRAM KOET;KHMER SYMBOL TUTEYASAT
KHMER SYMBOL MUOY ROC;KHMER SYMBOL PII ROC;KHMER SYMBOL BEI ROC;KHMER SYMBOL BUON ROC
KHMER SYMBOL PRAM ROC;KHMER SYMBOL PRAM-MUOY ROC;KHMER SYMBOL PRAM-PII ROC
KHMER SYMBOL PRAM-BEI ROC;KHMER SYMBOL PRAM-BUON ROC;KHMER SYMBOL DAP ROC
KHMER SYMBOL DAP-MUOY ROC;KHMER SYMBOL DAP-PII ROC;KHMER SYMBOL DAP-BEI ROC
KHMER SYMBOL DAP-BUON ROC;KHMER SYMBOL DAP-PRAM ROC;BUGINESE LETTER KA;BUGINESE LETTER GA
BUGINESE LETTER NGA;BUGINESE LETTER NGKA;BUGINESE LETTER PA;BUGINESE LETTER BA;BUGINESE LETTER MA
BUGINESE LETTER MPA;BUGINESE LETTER TA;BUGINESE LETTER DA;BUGINESE LETTER NA;BUGINESE LETTER NRA
BUGINESE LETTER CA;BUGINESE LETTER JA;BUGINESE LETTER NYA;BUGINESE LETTER NYCA;BUGINESE LETTER YA
BUGINESE LETTER RA;BUGINESE LETTER LA;BUGINESE LETTER VA;BUGINESE LETTER SA;BUGINESE LETTER A
BUGINESE LETTER HA;BUGINESE VOWEL SIGN I;BUGINESE VOWEL SIGN U;BUGINESE VOWEL SIGN E
BUGINESE VOWEL SIGN O;BUGINESE VOWEL SIGN AE"),
  (0x1a1e, "BUGINESE PALLAWA;BUGINESE END OF SECTION;TAI THAM LETTER HIGH KA
TAI THAM LETTER HIGH KHA;TAI THAM LETTER HIGH KXA;TAI THAM LETTER LOW KA;TAI THAM LETTER LOW KXA
TAI THAM LETTER LOW KHA;TAI THAM LETTER NGA;TAI THAM LETTER HIGH CA;TAI THAM LETTER HIGH CHA
TAI THAM LETTER LOW CA;TAI THAM LETTER LOW SA;TAI THAM LETTER LOW CHA;TAI THAM LETTER NYA
TAI THAM LETTER RATA;TAI THAM LETTER HIGH RATHA;TAI THAM LETTER DA;TAI THAM LETTER LOW RATHA
TAI THAM LETTER RANA;TAI THAM LETTER HIGH TA;TAI THAM LETTER HIGH THA;TAI THAM LETTER LOW TA
TAI THAM LETTER LOW THA;TAI THAM LETTER NA;TAI THAM LETTER BA;TAI THAM LETTER HIGH PA
TAI THAM LETTER HIGH PHA;TAI THAM LETTER HIGH FA;TAI THAM LETTER LOW PA;TAI THAM LETTER LOW FA
TAI THAM LETTER LOW PHA;TAI THAM LETTER MA;TAI THAM LETTER LOW YA;TAI THAM LETTER HIGH YA
TAI THAM LETTER RA;TAI THAM LETTER RUE;TAI THAM LETTER LA;TAI THAM LETTER LUE;TAI THAM LETTER WA
TAI THAM LETTER HIGH SHA;TAI THAM LETTER HIGH SSA;TAI THAM LETTER HIGH SA;TAI THAM LETTER HIGH HA
TAI THAM LETTER LLA;TAI THAM LETTER A;TAI THAM LETTER LOW HA;TAI THAM LETTER I;TAI THAM LETTER II
TAI THAM LETTER U;TAI THAM LETTER UU;TAI THAM LETTER EE;TAI THAM LETTER OO;TAI THAM LETTER LAE
TAI THAM LETTER GREAT SA;TAI THAM CONSONANT SIGN MEDIAL RA;TAI THAM CONSONANT SIGN MEDIAL LA
TAI THAM CONSONANT SIGN LA TANG LAI;TAI THAM SIGN MAI KANG LAI;TAI THAM CONSONANT SIGN FINAL NGA
TAI THAM CONSONANT SIGN LOW PA;TAI THAM CONSONANT SIGN HIGH RATHA OR LOW PA
TAI THAM CONSONANT SIGN MA;TAI THAM CONSONANT SIGN BA;TAI THAM CONSONANT SIGN SA"),
  (0x1a60, "TAI THAM SIGN SAKOT;TAI THAM VOWEL SIGN A;TAI THAM VOWEL SIGN MAI SAT
TAI THAM VOWEL SIGN AA;TAI THAM VOWEL SIGN TALL AA;TAI THAM VOWEL SIGN I;TAI THAM VOWEL SIGN II
TAI THAM VOWEL SIGN UE;TAI THAM VOWEL SIGN UUE;TAI THAM VOWEL SIGN U;TAI THAM VOWEL SIGN UU
TAI THAM VOWEL SIGN O;TAI THAM VOWEL SIGN OA BELOW;TAI THAM VOWEL SIGN OY;TAI THAM VOWEL SIGN E
TAI THAM VOWEL SIGN AE;TAI THAM VOWEL SIGN OO;TAI THAM VOWEL SIGN AI;TAI THAM VOWEL SIGN THAM AI
TAI THAM VOWEL SIGN OA ABOVE;TAI THAM SIGN MAI KANG;TAI THAM SIGN TONE-1;TAI THAM SIGN TONE-2
TAI THAM SIGN KHUEN TONE-3;TAI THAM SIGN KHUEN TONE-4;TAI THAM SIGN KHUEN TONE-5
TAI THAM SIGN RA HAAM;TAI THAM SIGN MAI SAM;TAI THAM SIGN KHUEN-LUE KARAN"),
  (0x1a7f, "TAI THAM COMBINING CRYPTOGRAMMIC DOT;TAI THAM HORA DIGIT ZERO;TAI THAM HORA DIGIT ONE
TAI THAM HORA DIGIT TWO;TAI THAM HORA DIGIT THREE;TAI THAM HORA DIGIT FOUR
TAI THAM HORA DIGIT FIVE;TAI THAM HORA DIGIT SIX;TAI THAM HORA DIGIT SEVEN
TAI THAM HORA DIGIT EIGHT;TAI THAM HORA DIGIT NINE"),
  (0x1a90, "TAI THAM THAM DIGIT ZERO;TAI THAM THAM DIGIT ONE;TAI THAM THAM DIGIT TWO
TAI THAM THAM DIGIT THREE;TAI THAM THAM DIGIT FOUR;TAI THAM THAM DIGIT FIVE
TAI THAM THAM DIGIT SIX;TAI THAM THAM DIGIT SEVEN;TAI THAM THAM DIGIT EIGHT
TAI THAM THAM DIGIT NINE"),
  (0x1aa0, "TAI THAM SIGN WIANG;TAI THAM SIGN WIANGWAAK;TAI THAM SIGN SAWAN;TAI THAM SIGN KEOW
TAI THAM SIGN HOY;TAI THAM SIGN DOKMAI;TAI THAM SIGN REVERSED ROTATED RANA
TAI THAM SIGN MAI YAMOK;TAI THAM SIGN KAAN;TAI THAM SIGN KAANKUU;TAI THAM SIGN SATKAAN
TAI THAM SIGN SATKAANKUU;TAI THAM SIGN HANG;TAI THAM SIGN CAANG"),
  (0x1ab0, "COMBINING DOUBLED CIRCUMFLEX ACCENT;COMBINING DIAERESIS-RING;COMBINING INFINITY
COMBINING DOWNWARDS ARROW;COMBINING TRIPLE DOT;COMBINING X-X BELOW;COMBINING WIGGLY LINE BELOW
COMBINING OPEN MARK BELOW;COMBINING DOUBLE OPEN MARK BELOW
COMBINING LIGHT CENTRALIZATION STROKE BELOW;COMBINING STRONG CENTRALIZATION STROKE BELOW
COMBINING PARENTHESES ABOVE;COMBINING DOUBLE PARENTHESES ABOVE;COMBINING PARENTHESES BELOW
COMBINING PARENTHESES OVERLAY;COMBINING LATIN SMALL LETTER W BELOW
COMBINING LATIN SMALL LETTER TURNED W BELOW;COMBINING LEFT PARENTHESIS ABOVE LEFT
COMBINING RIGHT PARENTHESIS ABOVE RIGHT;COMBINING LEFT PARENTHESIS BELOW LEFT
COMBINING RIGHT PARENTHESIS BELOW RIGHT;COMBINING SQUARE BRACKETS ABOVE
COMBINING NUMBER SIGN ABOVE;COMBINING INVERTED DOUBLE ARCH ABOVE;COMBINING PLUS SIGN ABOVE
COMBINING DOUBLE PLUS SIGN ABOVE;COMBINING DOUBLE PLUS SIGN BELOW;COMBINING TRIPLE ACUTE ACCENT
COMBINING LATIN SMALL LETTER INSULAR G;COMBINING LATIN SMALL LETTER INSULAR R
COMBINING LATIN SMALL LETTER INSULAR T"),
  (0x1b00, "BALINESE SIGN ULU RICEM;BALINESE SIGN ULU CANDRA;BALINESE SIGN CECEK
BALINESE SIGN SURANG;BALINESE SIGN BISAH;BALINESE LETTER AKARA;BALINESE LETTER AKARA TEDUNG
BALINESE LETTER IKARA;BALINESE LETTER IKARA TEDUNG;BALINESE LETTER UKARA
BALINESE LETTER UKARA TEDUNG;BALINESE LETTER RA REPA;BALINESE LETTER RA REPA TEDUNG
BALINESE LETTER LA LENGA;BALINESE LETTER LA LENGA TEDUNG;BALINESE LETTER EKARA
BALINESE LETTER AIKARA;BALINESE LETTER OKARA;BALINESE LETTER OKARA TEDUNG;BALINESE LETTER KA
BALINESE LETTER KA MAHAPRANA;BALINESE LETTER GA;BALINESE LETTER GA GORA;BALINESE LETTER NGA
BALINESE LETTER CA;BALINESE LETTER CA LACA;BALINESE LETTER JA;BALINESE LETTER JA JERA
BALINESE LETTER NYA;BALINESE LETTER TA LATIK;BALINESE LETTER TA MURDA MAHAPRANA
BALINESE LETTER DA MURDA ALPAPRANA;BALINESE LETTER DA MURDA MAHAPRANA;BALINESE LETTER NA RAMBAT
BALINESE LETTER TA;BALINESE LETTER TA TAWA;BALINESE LETTER DA;BALINESE LETTER DA MADU
BALINESE LETTER NA;BALINESE LETTER PA;BALINESE LETTER PA KAPAL;BALINESE LETTER BA
BALINESE LETTER BA KEMBANG;BALINESE LETTER MA;BALINESE LETTER YA;BALINESE LETTER RA
BALINESE LETTER LA;BALINESE LETTER WA;BALINESE LETTER SA SAGA;BALINESE LETTER SA SAPA
BALINESE LETTER SA;BALINESE LETTER HA;BALINESE SIGN REREKAN;BALINESE VOWEL SIGN TEDUNG
BALINESE VOWEL SIGN ULU;BALINESE VOWEL SIGN ULU SARI;BALINESE VOWEL SIGN SUKU
BALINESE VOWEL SIGN SUKU ILUT;BALINESE VOWEL SIGN RA REPA;BALINESE VOWEL SIGN RA REPA TEDUNG
BALINESE VOWEL SIGN LA LENGA;BALINESE VOWEL SIGN LA LENGA TEDUNG;BALINESE VOWEL SIGN TALING
BALINESE VOWEL SIGN TALING REPA;BALINESE VOWEL SIGN TALING TEDUNG
BALINESE VOWEL SIGN TALING REPA TEDUNG;BALINESE VOWEL SIGN PEPET;BALINESE VOWEL SIGN PEPET TEDUNG
BALINESE ADEG ADEG;BALINESE LETTER KAF SASAK;BALINESE LETTER KHOT SASAK
BALINESE LETTER TZIR SASAK;BALINESE LETTER EF SASAK;BALINESE LETTER VE SASAK
BALINESE LETTER ZAL SASAK;BALINESE LETTER ASYURA SASAK;BALINESE LETTER ARCHAIC JNYA"),
  (0x1b50, "BALINESE DIGIT ZERO;BALINESE DIGIT ONE;BALINESE DIGIT TWO;BALINESE DIGIT THREE
BALINESE DIGIT FOUR;BALINESE DIGIT FIVE;BALINESE DIGIT SIX;BALINESE DIGIT SEVEN
BALINESE DIGIT EIGHT;BALINESE DIGIT NINE;BALINESE PANTI;BALINESE PAMADA;BALINESE WINDU
BALINESE CARIK PAMUNGKAH;BALINESE CARIK SIKI;BALINESE CARIK PAREREN;BALINESE PAMENENG
BALINESE MUSICAL SYMBOL DONG;BALINESE MUSICAL SYMBOL DENG;BALINESE MUSICAL SYMBOL DUNG
BALINESE MUSICAL SYMBOL DANG;BALINESE MUSICAL SYMBOL DANG SURANG;BALINESE MUSICAL SYMBOL DING
BALINESE MUSICAL SYMBOL DAENG;BALINESE MUSICAL SYMBOL DEUNG;BALINESE MUSICAL SYMBOL DAING
BALINESE MUSICAL SYMBOL DANG GEDE;BALINESE MUSICAL SYMBOL COMBINING TEGEH
BALINESE MUSICAL SYMBOL COMBINING ENDEP;BALINESE MUSICAL SYMBOL COMBINING KEMPUL
BALINESE MUSICAL SYMBOL COMBINING KEMPLI;BALINESE MUSICAL SYMBOL COMBINING JEGOGAN
BALINESE MUSICAL SYMBOL COMBINING KEMPUL WITH JEGOGAN
BALINESE MUSICAL SYMBOL COMBINING KEMPLI WITH JEGOGAN;BALINESE MUSICAL SYMBOL COMBINING BENDE
BALINESE MUSICAL SYMBOL COMBINING GONG;BALINESE MUSICAL SYMBOL RIGHT-HAND OPEN DUG
BALINESE MUSICAL SYMBOL RIGHT-HAND OPEN DAG;BALINESE MUSICAL SYMBOL RIGHT-HAND CLOSED TUK
BALINESE MUSICAL SYMBOL RIGHT-HAND CLOSED TAK;BALINESE MUSICAL SYMBOL LEFT-HAND OPEN PANG
BALINESE MUSICAL SYMBOL LEFT-HAND OPEN PUNG;BALINESE MUSICAL SYMBOL LEFT-HAND CLOSED PLAK
BALINESE MUSICAL SYMBOL LEFT-HAND CLOSED PLUK;BALINESE MUSICAL SYMBOL LEFT-HAND OPEN PING
BALINESE PANTI LANTANG;BALINESE PAMADA LANTANG"),
  (0x1b80, "SUNDANESE SIGN PANYECEK;SUNDANESE SIGN PANGLAYAR;SUNDANESE SIGN PANGWISAD
SUNDANESE LETTER A;SUNDANESE LETTER I;SUNDANESE LETTER U;SUNDANESE LETTER AE;SUNDANESE LETTER O
SUNDANESE LETTER E;SUNDANESE LETTER EU;SUNDANESE LETTER KA;SUNDANESE LETTER QA
SUNDANESE LETTER GA;SUNDANESE LETTER NGA;SUNDANESE LETTER CA;SUNDANESE LETTER JA
SUNDANESE LETTER ZA;SUNDANESE LETTER NYA;SUNDANESE LETTER TA;SUNDANESE LETTER DA
SUNDANESE LETTER NA;SUNDANESE LETTER PA;SUNDANESE LETTER FA;SUNDANESE LETTER VA
SUNDANESE LETTER BA;SUNDANESE LETTER MA;SUNDANESE LETTER YA;SUNDANESE LETTER RA
SUNDANESE LETTER LA;SUNDANESE LETTER WA;SUNDANESE LETTER SA;SUNDANESE LETTER XA
SUNDANESE LETTER HA;SUNDANESE CONSONANT SIGN PAMINGKAL;SUNDANESE CONSONANT SIGN PANYAKRA
SUNDANESE CONSONANT SIGN PANYIKU;SUNDANESE VOWEL SIGN PANGHULU;SUNDANESE VOWEL SIGN PANYUKU
SUNDANESE VOWEL SIGN PANAELAENG;SUNDANESE VOWEL SIGN PANOLONG;SUNDANESE VOWEL SIGN PAMEPET
SUNDANESE VOWEL SIGN PANEULEUNG;SUNDANESE SIGN PAMAAEH;SUNDANESE SIGN VIRAMA
SUNDANESE CONSONANT SIGN PASANGAN MA;SUNDANESE CONSONANT SIGN PASANGAN WA;SUNDANESE LETTER KHA
SUNDANESE LETTER SYA;SUNDANESE DIGIT ZERO;SUNDANESE DIGIT ONE;SUNDANESE DIGIT TWO
SUNDANESE DIGIT THREE;SUNDANESE DIGIT FOUR;SUNDANESE DIGIT FIVE;SUNDANESE DIGIT SIX
SUNDANESE DIGIT SEVEN;SUNDANESE DIGIT EIGHT;SUNDANESE DIGIT NINE;SUNDANESE AVAGRAHA
SUNDANESE LETTER REU;SUNDANESE LETTER LEU;SUNDANESE LETTER BHA;SUNDANESE LETTER FINAL K
SUNDANESE LETTER FINAL M;BATAK LETTER A;BATAK LETTER SIMALUNGUN A;BATAK LETTER HA
BATAK LETTER SIMALUNGUN HA;BATAK LETTER MANDAILING HA;BATAK LETTER BA;BATAK LETTER KARO BA
BATAK LETTER PA;BATAK LETTER SIMALUNGUN PA;BATAK LETTER NA;BATAK LETTER MANDAILING NA
BATAK LETTER WA;BATAK LETTER SIMALUNGUN WA;BATAK LETTER PAKPAK WA;BATAK LETTER GA
BATAK LETTER SIMALUNGUN GA;BATAK LETTER JA;BATAK LETTER DA;BATAK LETTER RA
BATAK LETTER SIMALUNGUN RA;BATAK LETTER MA;BATAK LETTER SIMALUNGUN MA;BATAK LETTER SOUTHERN TA
BATAK LETTER NORTHERN TA;BATAK LETTER SA;BATAK LETTER SIMALUNGUN SA;BATAK LETTER MANDAILING SA
BATAK LETTER YA;BATAK LETTER SIMALUNGUN YA;BATAK LETTER NGA;BATAK LETTER LA
BATAK LETTER SIMALUNGUN LA;BATAK LETTER NYA;BATAK LETTER CA;BATAK LETTER NDA;BATAK LETTER MBA
BATAK LETTER I;BATAK LETTER U;BATAK SIGN TOMPI;BATAK VOWEL SIGN E;BATAK VOWEL SIGN PAKPAK E
BATAK VOWEL SIGN EE;BATAK VOWEL SIGN I;BATAK VOWEL SIGN KARO I;BATAK VOWEL SIGN O
BATAK VOWEL SIGN KARO O;BATAK VOWEL SIGN U;BATAK VOWEL SIGN U FOR SIMALUNGUN SA
BATAK CONSONANT SIGN NG;BATAK CONSONANT SIGN H;BATAK PANGOLAT;BATAK PANONGONAN"),
  (0x1bfc, "BATAK SYMBOL BINDU NA METEK;BATAK SYMBOL BINDU PINARBORAS;BATAK SYMBOL BINDU JUDUL
BATAK SYMBOL BINDU PANGOLAT;LEPCHA LETTER KA;LEPCHA LETTER KLA;LEPCHA LETTER KHA;LEPCHA LETTER GA
LEPCHA LETTER GLA;LEPCHA LETTER NGA;LEPCHA LETTER CA;LEPCHA LETTER CHA;LEPCHA LETTER JA
LEPCHA LETTER NYA;LEPCHA LETTER TA;LEPCHA LETTER THA;LEPCHA LETTER DA;LEPCHA LETTER NA
LEPCHA LETTER PA;LEPCHA LETTER PLA;LEPCHA LETTER PHA;LEPCHA LETTER FA;LEPCHA LETTER FLA
LEPCHA LETTER BA;LEPCHA LETTER BLA;LEPCHA LETTER MA;LEPCHA LETTER MLA;LEPCHA LETTER TSA
LEPCHA LETTER TSHA;LEPCHA LETTER DZA;LEPCHA LETTER YA;LEPCHA LETTER RA;LEPCHA LETTER LA
LEPCHA LETTER HA;LEPCHA LETTER HLA;LEPCHA LETTER VA;LEPCHA LETTER SA;LEPCHA LETTER SHA
LEPCHA LETTER WA;LEPCHA LETTER A;LEPCHA SUBJOINED LETTER YA;LEPCHA SUBJOINED LETTER RA
LEPCHA VOWEL SIGN AA;LEPCHA VOWEL SIGN I;LEPCHA VOWEL SIGN O;LEPCHA VOWEL SIGN OO
LEPCHA VOWEL SIGN U;LEPCHA VOWEL SIGN UU;LEPCHA VOWEL SIGN E;LEPCHA CONSONANT SIGN K
LEPCHA CONSONANT SIGN M;LEPCHA CONSONANT SIGN L;LEPCHA CONSONANT SIGN N;LEPCHA CONSONANT SIGN P
LEPCHA CONSONANT SIGN R;LEPCHA CONSONANT SIGN T;LEPCHA CONSONANT SIGN NYIN-DO
LEPCHA CONSONANT SIGN KANG;LEPCHA SIGN RAN;LEPCHA SIGN NUKTA"),
  (0x1c3b, "LEPCHA PUNCTUATION TA-ROL;LEPCHA PUNCTUATION NYET THYOOM TA-ROL
LEPCHA PUNCTUATION CER-WA;LEPCHA PUNCTUATION TSHOOK CER-WA;LEPCHA PUNCTUATION TSHOOK
LEPCHA DIGIT ZERO;LEPCHA DIGIT ONE;LEPCHA DIGIT TWO;LEPCHA DIGIT THREE;LEPCHA DIGIT FOUR
LEPCHA DIGIT FIVE;LEPCHA DIGIT SIX;LEPCHA DIGIT SEVEN;LEPCHA DIGIT EIGHT;LEPCHA DIGIT NINE"),
  (0x1c4d, "LEPCHA LETTER TTA;LEPCHA LETTER TTHA;LEPCHA LETTER DDA;OL CHIKI DIGIT ZERO
OL CHIKI DIGIT ONE;OL CHIKI DIGIT TWO;OL CHIKI DIGIT THREE;OL CHIKI DIGIT FOUR
OL CHIKI DIGIT FIVE;OL CHIKI DIGIT SIX;OL CHIKI DIGIT SEVEN;OL CHIKI DIGIT EIGHT
OL CHIKI DIGIT NINE;OL CHIKI LETTER LA;OL CHIKI LETTER AT;OL CHIKI LETTER AG;OL CHIKI LETTER ANG
OL CHIKI LETTER AL;OL CHIKI LETTER LAA;OL CHIKI LETTER AAK;OL CHIKI LETTER AAJ
OL CHIKI LETTER AAM;OL CHIKI LETTER AAW;OL CHIKI LETTER LI;OL CHIKI LETTER IS;OL CHIKI LETTER IH
OL CHIKI LETTER INY;OL CHIKI LETTER IR;OL CHIKI LETTER LU;OL CHIKI LETTER UC;OL CHIKI LETTER UD
OL CHIKI LETTER UNN;OL CHIKI LETTER UY;OL CHIKI LETTER LE;OL CHIKI LETTER EP;OL CHIKI LETTER EDD
OL CHIKI LETTER EN;OL CHIKI LETTER ERR;OL CHIKI LETTER LO;OL CHIKI LETTER OTT;OL CHIKI LETTER OB
OL CHIKI LETTER OV;OL CHIKI LETTER OH;OL CHIKI MU TTUDDAG;OL CHIKI GAAHLAA TTUDDAAG
OL CHIKI MU-GAAHLAA TTUDDAAG;OL CHIKI RELAA;OL CHIKI PHAARKAA;OL CHIKI AHAD
OL CHIKI PUNCTUATION MUCAAD;OL CHIKI PUNCTUATION DOUBLE MUCAAD;CYRILLIC SMALL LETTER ROUNDED VE
CYRILLIC SMALL LETTER LONG-LEGGED DE;CYRILLIC SMALL LETTER NARROW O;CYRILLIC SMALL LETTER WIDE ES
CYRILLIC SMALL LETTER TALL TE;CYRILLIC SMALL LETTER THREE-LEGGED TE
CYRILLIC SMALL LETTER TALL HARD SIGN;CYRILLIC SMALL LETTER TALL YAT
CYRILLIC SMALL LETTER UNBLENDED UK"),
  (0x1c90, "GEORGIAN MTAVRULI CAPITAL LETTER AN;GEORGIAN MTAVRULI CAPITAL LETTER BAN
GEORGIAN MTAVRULI CAPITAL LETTER GAN;GEORGIAN MTAVRULI CAPITAL LETTER DON
GEORGIAN MTAVRULI CAPITAL LETTER EN;GEORGIAN MTAVRULI CAPITAL LETTER VIN
GEORGIAN MTAVRULI CAPITAL LETTER ZEN;GEORGIAN MTAVRULI CAPITAL LETTER TAN
GEORGIAN MTAVRULI CAPITAL LETTER IN;GEORGIAN MTAVRULI CAPITAL LETTER KAN
GEORGIAN MTAVRULI CAPITAL LETTER LAS;GEORGIAN MTAVRULI CAPITAL LETTER MAN
GEORGIAN MTAVRULI CAPITAL LETTER NAR;GEORGIAN MTAVRULI CAPITAL LETTER ON
GEORGIAN MTAVRULI CAPITAL LETTER PAR;GEORGIAN MTAVRULI CAPITAL LETTER ZHAR
GEORGIAN MTAVRULI CAPITAL LETTER RAE;GEORGIAN MTAVRULI CAPITAL LETTER SAN
GEORGIAN MTAVRULI CAPITAL LETTER TAR;GEORGIAN MTAVRULI CAPITAL LETTER UN
GEORGIAN MTAVRULI CAPITAL LETTER PHAR;GEORGIAN MTAVRULI CAPITAL LETTER KHAR
GEORGIAN MTAVRULI CAPITAL LETTER GHAN;GEORGIAN MTAVRULI CAPITAL LETTER QAR
GEORGIAN MTAVRULI CAPITAL LETTER SHIN;GEORGIAN MTAVRULI CAPITAL LETTER CHIN
GEORGIAN MTAVRULI CAPITAL LETTER CAN;GEORGIAN MTAVRULI CAPITAL LETTER JIL
GEORGIAN MTAVRULI CAPITAL LETTER CIL;GEORGIAN MTAVRULI CAPITAL LETTER CHAR
GEORGIAN MTAVRULI CAPITAL LETTER XAN;GEORGIAN MTAVRULI CAPITAL LETTER JHAN
GEORGIAN MTAVRULI CAPITAL LETTER HAE;GEORGIAN MTAVRULI CAPITAL LETTER HE
GEORGIAN MTAVRULI CAPITAL LETTER HIE;GEORGIAN MTAVRULI CAPITAL LETTER WE
GEORGIAN MTAVRULI CAPITAL LETTER HAR;GEORGIAN MTAVRULI CAPITAL LETTER HOE
GEORGIAN MTAVRULI CAPITAL LETTER FI;GEORGIAN MTAVRULI CAPITAL LETTER YN
GEORGIAN MTAVRULI CAPITAL LETTER ELIFI;GEORGIAN MTAVRULI CAPITAL LETTER TURNED GAN
GEORGIAN MTAVRULI CAPITAL LETTER AIN"),
  (0x1cbd, "GEORGIAN MTAVRULI CAPITAL LETTER AEN;GEORGIAN MTAVRULI CAPITAL LETTER HARD SIGN
GEORGIAN MTAVRULI CAPITAL LETTER LABIAL SIGN;SUNDANESE PUNCTUATION BINDU SURYA
SUNDANESE PUNCTUATION BINDU PANGLONG;SUNDANESE PUNCTUATION BINDU PURNAMA
SUNDANESE PUNCTUATION BINDU CAKRA;SUNDANESE PUNCTUATION BINDU LEU SATANGA
SUNDANESE PUNCTUATION BINDU KA SATANGA;SUNDANESE PUNCTUATION BINDU DA SATANGA
SUNDANESE PUNCTUATION BINDU BA SATANGA"),
  (0x1cd0, "VEDIC TONE KARSHANA;VEDIC TONE SHARA;VEDIC TONE PRENKHA;VEDIC SIGN NIHSHVASA
VEDIC SIGN YAJURVEDIC MIDLINE SVARITA;VEDIC TONE YAJURVEDIC AGGRAVATED INDEPENDENT SVARITA
VEDIC TONE YAJURVEDIC INDEPENDENT SVARITA;VEDIC TONE YAJURVEDIC KATHAKA INDEPENDENT SVARITA
VEDIC TONE CANDRA BELOW;VEDIC TONE YAJURVEDIC KATHAKA INDEPENDENT SVARITA SCHROEDER
VEDIC TONE DOUBLE SVARITA;VEDIC TONE TRIPLE SVARITA;VEDIC TONE KATHAKA ANUDATTA
VEDIC TONE DOT BELOW;VEDIC TONE TWO DOTS BELOW;VEDIC TONE THREE DOTS BELOW
VEDIC TONE RIGVEDIC KASHMIRI INDEPENDENT SVARITA;VEDIC TONE ATHARVAVEDIC INDEPENDENT SVARITA
VEDIC SIGN VISARGA SVARITA;VEDIC SIGN VISARGA UDATTA;VEDIC SIGN REVERSED VISARGA UDATTA
VEDIC SIGN VISARGA ANUDATTA;VEDIC SIGN REVERSED VISARGA ANUDATTA
VEDIC SIGN VISARGA UDATTA WITH TAIL;VEDIC SIGN VISARGA ANUDATTA WITH TAIL
VEDIC SIGN ANUSVARA ANTARGOMUKHA;VEDIC SIGN ANUSVARA BAHIRGOMUKHA;VEDIC SIGN ANUSVARA VAMAGOMUKHA
VEDIC SIGN ANUSVARA VAMAGOMUKHA WITH TAIL;VEDIC SIGN TIRYAK;VEDIC SIGN HEXIFORM LONG ANUSVARA
VEDIC SIGN LONG ANUSVARA;VEDIC SIGN RTHANG LONG ANUSVARA;VEDIC SIGN ANUSVARA UBHAYATO MUKHA
VEDIC SIGN ARDHAVISARGA;VEDIC SIGN ROTATED ARDHAVISARGA;VEDIC TONE CANDRA ABOVE
VEDIC SIGN JIHVAMULIYA;VEDIC SIGN UPADHMANIYA;VEDIC SIGN ATIKRAMA;VEDIC TONE RING ABOVE
VEDIC TONE DOUBLE RING ABOVE;VEDIC SIGN DOUBLE ANUSVARA ANTARGOMUKHA")]

end UrlRouting.Text
