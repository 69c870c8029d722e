/-!
# Names of characters from U+1B000 to U+1D7CB

The names of Unicode 14.  Each entry gives the first of some characters in a row and their
names, one after the other, between semicolons and line ends.
-/

namespace UrlRouting.Text

/-- The names of the characters from U+1B000 to U+1D7CB. -/
def namesFrom1B000 : List (Nat × String) := [
  (0x1b000, "KATAKANA LETTER ARCHAIC E;HIRAGANA LETTER ARCHAIC YE;HENTAIGANA LETTER A-1
HENTAIGANA LETTER A-2;HENTAIGANA LETTER A-3;HENTAIGANA LETTER A-WO;HENTAIGANA LETTER I-1
HENTAIGANA LETTER I-2;HENTAIGANA LETTER I-3;HENTAIGANA LETTER I-4;HENTAIGANA LETTER U-1
HENTAIGANA LETTER U-2;HENTAIGANA LETTER U-3;HENTAIGANA LETTER U-4;HENTAIGANA LETTER U-5
HENTAIGANA LETTER E-2;HENTAIGANA LETTER E-3;HENTAIGANA LETTER E-4;HENTAIGANA LETTER E-5
HENTAIGANA LETTER E-6;HENTAIGANA LETTER O-1;HENTAIGANA LETTER O-2;HENTAIGANA LETTER O-3
HENTAIGANA LETTER KA-1;HENTAIGANA LETTER KA-2;HENTAIGANA LETTER KA-3;HENTAIGANA LETTER KA-4
HENTAIGANA LETTER KA-5;HENTAIGANA LETTER KA-6;HENTAIGANA LETTER KA-7;HENTAIGANA LETTER KA-8
HENTAIGANA LETTER KA-9;HENTAIGANA LETTER KA-10;HENTAIGANA LETTER KA-11;HENTAIGANA LETTER KA-KE
HENTAIGANA LETTER KI-1;HENTAIGANA LETTER KI-2;HENTAIGANA LETTER KI-3;HENTAIGANA LETTER KI-4
HENTAIGANA LETTER KI-5;HENTAIGANA LETTER KI-6;HENTAIGANA LETTER KI-7;HENTAIGANA LETTER KI-8
HENTAIGANA LETTER KU-1;HENTAIGANA LETTER KU-2;HENTAIGANA LETTER KU-3;HENTAIGANA LETTER KU-4
HENTAIGANA LETTER KU-5;HENTAIGANA LETTER KU-6;HENTAIGANA LETTER KU-7;HENTAIGANA LETTER KE-1
HENTAIGANA LETTER KE-2;HENTAIGANA LETTER KE-3;HENTAIGANA LETTER KE-4;HENTAIGANA LETTER KE-5
HENTAIGANA LETTER KE-6;HENTAIGANA LETTER KO-1;HENTAIGANA LETTER KO-2;HENTAIGANA LETTER KO-3
HENTAIGANA LETTER KO-KI;HENTAIGANA LETTER SA-1;HENTAIGANA LETTER SA-2;HENTAIGANA LETTER SA-3
HENTAIGANA LETTER SA-4;HENTAIGANA LETTER SA-5;HENTAIGANA LETTER SA-6;HENTAIGANA LETTER SA-7
HENTAIGANA LETTER SA-8;HENTAIGANA LETTER SI-1;HENTAIGANA LETTER SI-2;HENTAIGANA LETTER SI-3
HENTAIGANA LETTER SI-4;HENTAIGANA LETTER SI-5;HENTAIGANA LETTER SI-6;HENTAIGANA LETTER SU-1
HENTAIGANA LETTER SU-2;HENTAIGANA LETTER SU-3;HENTAIGANA LETTER SU-4;HENTAIGANA LETTER SU-5
HENTAIGANA LETTER SU-6;HENTAIGANA LETTER SU-7;HENTAIGANA LETTER SU-8;HENTAIGANA LETTER SE-1
HENTAIGANA LETTER SE-2;HENTAIGANA LETTER SE-3;HENTAIGANA LETTER SE-4;HENTAIGANA LETTER SE-5
HENTAIGANA LETTER SO-1;HENTAIGANA LETTER SO-2;HENTAIGANA LETTER SO-3;HENTAIGANA LETTER SO-4
HENTAIGANA LETTER SO-5;HENTAIGANA LETTER SO-6;HENTAIGANA LETTER SO-7;HENTAIGANA LETTER TA-1
HENTAIGANA LETTER TA-2;HENTAIGANA LETTER TA-3;HENTAIGANA LETTER TA-4;HENTAIGANA LETTER TI-1
HENTAIGANA LETTER TI-2;HENTAIGANA LETTER TI-3;HENTAIGANA LETTER TI-4;HENTAIGANA LETTER TI-5
HENTAIGANA LETTER TI-6;HENTAIGANA LETTER TI-7;HENTAIGANA LETTER TU-1;HENTAIGANA LETTER TU-2
HENTAIGANA LETTER TU-3;HENTAIGANA LETTER TU-4;HENTAIGANA LETTER TU-TO;HENTAIGANA LETTER TE-1
HENTAIGANA LETTER TE-2;HENTAIGANA LETTER TE-3;HENTAIGANA LETTER TE-4;HENTAIGANA LETTER TE-5
HENTAIGANA LETTER TE-6;HENTAIGANA LETTER TE-7;HENTAIGANA LETTER TE-8;HENTAIGANA LETTER TE-9
HENTAIGANA LETTER TO-1;HENTAIGANA LETTER TO-2;HENTAIGANA LETTER TO-3;HENTAIGANA LETTER TO-4
HENTAIGANA LETTER TO-5;HENTAIGANA LETTER TO-6;HENTAIGANA LETTER TO-RA;HENTAIGANA LETTER NA-1
HENTAIGANA LETTER NA-2;HENTAIGANA LETTER NA-3;HENTAIGANA LETTER NA-4;HENTAIGANA LETTER NA-5
HENTAIGANA LETTER NA-6;HENTAIGANA LETTER NA-7;HENTAIGANA LETTER NA-8;HENTAIGANA LETTER NA-9
HENTAIGANA LETTER NI-1;HENTAIGANA LETTER NI-2;HENTAIGANA LETTER NI-3;HENTAIGANA LETTER NI-4
HENTAIGANA LETTER NI-5;HENTAIGANA LETTER NI-6;HENTAIGANA LETTER NI-7;HENTAIGANA LETTER NI-TE
HENTAIGANA LETTER NU-1;HENTAIGANA LETTER NU-2;HENTAIGANA LETTER NU-3;HENTAIGANA LETTER NE-1
HENTAIGANA LETTER NE-2;HENTAIGANA LETTER NE-3;HENTAIGANA LETTER NE-4;HENTAIGANA LETTER NE-5
HENTAIGANA LETTER NE-6;HENTAIGANA LETTER NE-KO;HENTAIGANA LETTER NO-1;HENTAIGANA LETTER NO-2
HENTAIGANA LETTER NO-3;HENTAIGANA LETTER NO-4;HENTAIGANA LETTER NO-5;HENTAIGANA LETTER HA-1
HENTAIGANA LETTER HA-2;HENTAIGANA LETTER HA-3;HENTAIGANA LETTER HA-4;HENTAIGANA LETTER HA-5
HENTAIGANA LETTER HA-6;HENTAIGANA LETTER HA-7;HENTAIGANA LETTER HA-8;HENTAIGANA LETTER HA-9
HENTAIGANA LETTER HA-10;HENTAIGANA LETTER HA-11;HENTAIGANA LETTER HI-1;HENTAIGANA LETTER HI-2
HENTAIGANA LETTER HI-3;HENTAIGANA LETTER HI-4;HENTAIGANA LETTER HI-5;HENTAIGANA LETTER HI-6
HENTAIGANA LETTER HI-7;HENTAIGANA LETTER HU-1;HENTAIGANA LETTER HU-2;HENTAIGANA LETTER HU-3
HENTAIGANA LETTER HE-1;HENTAIGANA LETTER HE-2;HENTAIGANA LETTER HE-3;HENTAIGANA LETTER HE-4
HENTAIGANA LETTER HE-5;HENTAIGANA LETTER HE-6;HENTAIGANA LETTER HE-7;HENTAIGANA LETTER HO-1
HENTAIGANA LETTER HO-2;HENTAIGANA LETTER HO-3;HENTAIGANA LETTER HO-4;HENTAIGANA LETTER HO-5
HENTAIGANA LETTER HO-6;HENTAIGANA LETTER HO-7;HENTAIGANA LETTER HO-8;HENTAIGANA LETTER MA-1
HENTAIGANA LETTER MA-2;HENTAIGANA LETTER MA-3;HENTAIGANA LETTER MA-4;HENTAIGANA LETTER MA-5
HENTAIGANA LETTER MA-6;HENTAIGANA LETTER MA-7;HENTAIGANA LETTER MI-1;HENTAIGANA LETTER MI-2
HENTAIGANA LETTER MI-3;HENTAIGANA LETTER MI-4;HENTAIGANA LETTER MI-5;HENTAIGANA LETTER MI-6
HENTAIGANA LETTER MI-7;HENTAIGANA LETTER MU-1;HENTAIGANA LETTER MU-2;HENTAIGANA LETTER MU-3
HENTAIGANA LETTER MU-4;HENTAIGANA LETTER ME-1;HENTAIGANA LETTER ME-2;HENTAIGANA LETTER ME-MA
HENTAIGANA LETTER MO-1;HENTAIGANA LETTER MO-2;HENTAIGANA LETTER MO-3;HENTAIGANA LETTER MO-4
HENTAIGANA LETTER MO-5;HENTAIGANA LETTER MO-6;HENTAIGANA LETTER YA-1;HENTAIGANA LETTER YA-2
HENTAIGANA LETTER YA-3;HENTAIGANA LETTER YA-4;HENTAIGANA LETTER YA-5;HENTAIGANA LETTER YA-YO
HENTAIGANA LETTER YU-1;HENTAIGANA LETTER YU-2;HENTAIGANA LETTER YU-3;HENTAIGANA LETTER YU-4
HENTAIGANA LETTER YO-1;HENTAIGANA LETTER YO-2;HENTAIGANA LETTER YO-3;HENTAIGANA LETTER YO-4
HENTAIGANA LETTER YO-5;HENTAIGANA LETTER YO-6;HENTAIGANA LETTER RA-1;HENTAIGANA LETTER RA-2
HENTAIGANA LETTER RA-3;HENTAIGANA LETTER RA-4;HENTAIGANA LETTER RI-1;HENTAIGANA LETTER RI-2
HENTAIGANA LETTER RI-3;HENTAIGANA LETTER RI-4;HENTAIGANA LETTER RI-5;HENTAIGANA LETTER RI-6
HENTAIGANA LETTER RI-7;HENTAIGANA LETTER RU-1;HENTAIGANA LETTER RU-2;HENTAIGANA LETTER RU-3
HENTAIGANA LETTER RU-4;HENTAIGANA LETTER RU-5;HENTAIGANA LETTER RU-6;HENTAIGANA LETTER RE-1
HENTAIGANA LETTER RE-2;HENTAIGANA LETTER RE-3;HENTAIGANA LETTER RE-4;HENTAIGANA LETTER RO-1
HENTAIGANA LETTER RO-2;HENTAIGANA LETTER RO-3;HENTAIGANA LETTER RO-4;HENTAIGANA LETTER RO-5
HENTAIGANA LETTER RO-6;HENTAIGANA LETTER WA-1;HENTAIGANA LETTER WA-2;HENTAIGANA LETTER WA-3
HENTAIGANA LETTER WA-4;HENTAIGANA LETTER WA-5;HENTAIGANA LETTER WI-1;HENTAIGANA LETTER WI-2
HENTAIGANA LETTER WI-3;HENTAIGANA LETTER WI-4;HENTAIGANA LETTER WI-5;HENTAIGANA LETTER WE-1
HENTAIGANA LETTER WE-2;HENTAIGANA LETTER WE-3;HENTAIGANA LETTER WE-4;HENTAIGANA LETTER WO-1
HENTAIGANA LETTER WO-2;HENTAIGANA LETTER WO-3;HENTAIGANA LETTER WO-4;HENTAIGANA LETTER WO-5
HENTAIGANA LETTER WO-6;HENTAIGANA LETTER WO-7;HENTAIGANA LETTER N-MU-MO-1
HENTAIGANA LETTER N-MU-MO-2;HIRAGANA LETTER ARCHAIC WU;KATAKANA LETTER ARCHAIC YI
KATAKANA LETTER ARCHAIC YE;KATAKANA LETTER ARCHAIC WU"),
  (0x1b150, "HIRAGANA LETTER SMALL WI;HIRAGANA LETTER SMALL WE;HIRAGANA LETTER SMALL WO"),
  (0x1b164, "KATAKANA LETTER SMALL WI;KATAKANA LETTER SMALL WE;KATAKANA LETTER SMALL WO
KATAKANA LETTER SMALL N"),
  (0x1bc00, "DUPLOYAN LETTER H;DUPLOYAN LETTER X;DUPLOYAN LETTER P;DUPLOYAN LETTER T
DUPLOYAN LETTER F;DUPLOYAN LETTER K;DUPLOYAN LETTER L;DUPLOYAN LETTER B;DUPLOYAN LETTER D
DUPLOYAN LETTER V;DUPLOYAN LETTER G;DUPLOYAN LETTER R;DUPLOYAN LETTER P N;DUPLOYAN LETTER D S
DUPLOYAN LETTER F N;DUPLOYAN LETTER K M;DUPLOYAN LETTER R S;DUPLOYAN LETTER TH
DUPLOYAN LETTER SLOAN DH;DUPLOYAN LETTER DH;DUPLOYAN LETTER KK;DUPLOYAN LETTER SLOAN J
DUPLOYAN LETTER HL;DUPLOYAN LETTER LH;DUPLOYAN LETTER RH;DUPLOYAN LETTER M;DUPLOYAN LETTER N
DUPLOYAN LETTER J;DUPLOYAN LETTER S;DUPLOYAN LETTER M N;DUPLOYAN LETTER N M;DUPLOYAN LETTER J M
DUPLOYAN LETTER S J;DUPLOYAN LETTER M WITH DOT;DUPLOYAN LETTER N WITH DOT
DUPLOYAN LETTER J WITH DOT;DUPLOYAN LETTER J WITH DOTS INSIDE AND ABOVE
DUPLOYAN LETTER S WITH DOT;DUPLOYAN LETTER S WITH DOT BELOW;DUPLOYAN LETTER M S
DUPLOYAN LETTER N S;DUPLOYAN LETTER J S;DUPLOYAN LETTER S S;DUPLOYAN LETTER M N S
DUPLOYAN LETTER N M S;DUPLOYAN LETTER J M S;DUPLOYAN LETTER S J S;DUPLOYAN LETTER J S WITH DOT
DUPLOYAN LETTER J N;DUPLOYAN LETTER J N S;DUPLOYAN LETTER S T;DUPLOYAN LETTER S T R
DUPLOYAN LETTER S P;DUPLOYAN LETTER S P R;DUPLOYAN LETTER T S;DUPLOYAN LETTER T R S
DUPLOYAN LETTER W;DUPLOYAN LETTER WH;DUPLOYAN LETTER W R;DUPLOYAN LETTER S N;DUPLOYAN LETTER S M
DUPLOYAN LETTER K R S;DUPLOYAN LETTER G R S;DUPLOYAN LETTER S K;DUPLOYAN LETTER S K R
DUPLOYAN LETTER A;DUPLOYAN LETTER SLOAN OW;DUPLOYAN LETTER OA;DUPLOYAN LETTER O
DUPLOYAN LETTER AOU;DUPLOYAN LETTER I;DUPLOYAN LETTER E;DUPLOYAN LETTER IE
DUPLOYAN LETTER SHORT I;DUPLOYAN LETTER UI;DUPLOYAN LETTER EE;DUPLOYAN LETTER SLOAN EH
DUPLOYAN LETTER ROMANIAN I;DUPLOYAN LETTER SLOAN EE;DUPLOYAN LETTER LONG I;DUPLOYAN LETTER YE
DUPLOYAN LETTER U;DUPLOYAN LETTER EU;DUPLOYAN LETTER XW;DUPLOYAN LETTER U N
DUPLOYAN LETTER LONG U;DUPLOYAN LETTER ROMANIAN U;DUPLOYAN LETTER UH;DUPLOYAN LETTER SLOAN U
DUPLOYAN LETTER OOH;DUPLOYAN LETTER OW;DUPLOYAN LETTER OU;DUPLOYAN LETTER WA;DUPLOYAN LETTER WO
DUPLOYAN LETTER WI;DUPLOYAN LETTER WEI;DUPLOYAN LETTER WOW;DUPLOYAN LETTER NASAL U
DUPLOYAN LETTER NASAL O;DUPLOYAN LETTER NASAL I;DUPLOYAN LETTER NASAL A;DUPLOYAN LETTER PERNIN AN
DUPLOYAN LETTER PERNIN AM;DUPLOYAN LETTER SLOAN EN;DUPLOYAN LETTER SLOAN AN
DUPLOYAN LETTER SLOAN ON;DUPLOYAN LETTER VOCALIC M"),
  (0x1bc70, "DUPLOYAN AFFIX LEFT HORIZONTAL SECANT;DUPLOYAN AFFIX MID HORIZONTAL SECANT
DUPLOYAN AFFIX RIGHT HORIZONTAL SECANT;DUPLOYAN AFFIX LOW VERTICAL SECANT
DUPLOYAN AFFIX MID VERTICAL SECANT;DUPLOYAN AFFIX HIGH VERTICAL SECANT
DUPLOYAN AFFIX ATTACHED SECANT;DUPLOYAN AFFIX ATTACHED LEFT-TO-RIGHT SECANT
DUPLOYAN AFFIX ATTACHED TANGENT;DUPLOYAN AFFIX ATTACHED TAIL;DUPLOYAN AFFIX ATTACHED E HOOK
DUPLOYAN AFFIX ATTACHED I HOOK;DUPLOYAN AFFIX ATTACHED TANGENT HOOK"),
  (0x1bc80, "DUPLOYAN AFFIX HIGH ACUTE;DUPLOYAN AFFIX HIGH TIGHT ACUTE;DUPLOYAN AFFIX HIGH GRAVE
DUPLOYAN AFFIX HIGH LONG GRAVE;DUPLOYAN AFFIX HIGH DOT;DUPLOYAN AFFIX HIGH CIRCLE
DUPLOYAN AFFIX HIGH LINE;DUPLOYAN AFFIX HIGH WAVE;DUPLOYAN AFFIX HIGH VERTICAL"),
  (0x1bc90, "DUPLOYAN AFFIX LOW ACUTE;DUPLOYAN AFFIX LOW TIGHT ACUTE;DUPLOYAN AFFIX LOW GRAVE
DUPLOYAN AFFIX LOW LONG GRAVE;DUPLOYAN AFFIX LOW DOT;DUPLOYAN AFFIX LOW CIRCLE
DUPLOYAN AFFIX LOW LINE;DUPLOYAN AFFIX LOW WAVE;DUPLOYAN AFFIX LOW VERTICAL
DUPLOYAN AFFIX LOW ARROW"),
  (0x1bc9c, "DUPLOYAN SIGN O WITH CROSS;DUPLOYAN THICK LETTER SELECTOR;DUPLOYAN DOUBLE MARK
DUPLOYAN PUNCTUATION CHINOOK FULL STOP;SHORTHAND FORMAT LETTER OVERLAP
SHORTHAND FORMAT CONTINUING OVERLAP;SHORTHAND FORMAT DOWN STEP;SHORTHAND FORMAT UP STEP"),
  (0x1cf00, "ZNAMENNY COMBINING MARK GORAZDO NIZKO S KRYZHEM ON LEFT
ZNAMENNY COMBINING MARK NIZKO S KRYZHEM ON LEFT;ZNAMENNY COMBINING MARK TSATA ON LEFT
ZNAMENNY COMBINING MARK GORAZDO NIZKO ON LEFT;ZNAMENNY COMBINING MARK NIZKO ON LEFT
ZNAMENNY COMBINING MARK SREDNE ON LEFT;ZNAMENNY COMBINING MARK MALO POVYSHE ON LEFT
ZNAMENNY COMBINING MARK POVYSHE ON LEFT;ZNAMENNY COMBINING MARK VYSOKO ON LEFT
ZNAMENNY COMBINING MARK MALO POVYSHE S KHOKHLOM ON LEFT
ZNAMENNY COMBINING MARK POVYSHE S KHOKHLOM ON LEFT
ZNAMENNY COMBINING MARK VYSOKO S KHOKHLOM ON LEFT
ZNAMENNY COMBINING MARK GORAZDO NIZKO S KRYZHEM ON RIGHT
ZNAMENNY COMBINING MARK NIZKO S KRYZHEM ON RIGHT;ZNAMENNY COMBINING MARK TSATA ON RIGHT
ZNAMENNY COMBINING MARK GORAZDO NIZKO ON RIGHT;ZNAMENNY COMBINING MARK NIZKO ON RIGHT
ZNAMENNY COMBINING MARK SREDNE ON RIGHT;ZNAMENNY COMBINING MARK MALO POVYSHE ON RIGHT
ZNAMENNY COMBINING MARK POVYSHE ON RIGHT;ZNAMENNY COMBINING MARK VYSOKO ON RIGHT
ZNAMENNY COMBINING MARK MALO POVYSHE S KHOKHLOM ON RIGHT
ZNAMENNY COMBINING MARK POVYSHE S KHOKHLOM ON RIGHT
ZNAMENNY COMBINING MARK VYSOKO S KHOKHLOM ON RIGHT;ZNAMENNY COMBINING MARK TSATA S KRYZHEM
ZNAMENNY COMBINING MARK MALO POVYSHE S KRYZHEM;ZNAMENNY COMBINING MARK STRANNO MALO POVYSHE
ZNAMENNY COMBINING MARK POVYSHE S KRYZHEM;ZNAMENNY COMBINING MARK POVYSHE STRANNO
ZNAMENNY COMBINING MARK VYSOKO S KRYZHEM;ZNAMENNY COMBINING MARK MALO POVYSHE STRANNO
ZNAMENNY COMBINING MARK GORAZDO VYSOKO;ZNAMENNY COMBINING MARK ZELO;ZNAMENNY COMBINING MARK ON
ZNAMENNY COMBINING MARK RAVNO;ZNAMENNY COMBINING MARK TIKHAYA;ZNAMENNY COMBINING MARK BORZAYA
ZNAMENNY COMBINING MARK UDARKA;ZNAMENNY COMBINING MARK PODVERTKA;ZNAMENNY COMBINING MARK LOMKA
ZNAMENNY COMBINING MARK KUPNAYA;ZNAMENNY COMBINING MARK KACHKA;ZNAMENNY COMBINING MARK ZEVOK
ZNAMENNY COMBINING MARK SKOBA;ZNAMENNY COMBINING MARK RAZSEKA
ZNAMENNY COMBINING MARK KRYZH ON LEFT"),
  (0x1cf30, "ZNAMENNY COMBINING TONAL RANGE MARK MRACHNO
ZNAMENNY COMBINING TONAL RANGE MARK SVETLO;ZNAMENNY COMBINING TONAL RANGE MARK TRESVETLO
ZNAMENNY COMBINING MARK ZADERZHKA;ZNAMENNY COMBINING MARK DEMESTVENNY ZADERZHKA
ZNAMENNY COMBINING MARK OTSECHKA;ZNAMENNY COMBINING MARK PODCHASHIE
ZNAMENNY COMBINING MARK PODCHASHIE WITH VERTICAL STROKE;ZNAMENNY COMBINING MARK CHASHKA
ZNAMENNY COMBINING MARK CHASHKA POLNAYA;ZNAMENNY COMBINING MARK OBLACHKO
ZNAMENNY COMBINING MARK SOROCHYA NOZHKA;ZNAMENNY COMBINING MARK TOCHKA
ZNAMENNY COMBINING MARK DVOETOCHIE;ZNAMENNY COMBINING ATTACHING VERTICAL OMET
ZNAMENNY COMBINING MARK CURVED OMET;ZNAMENNY COMBINING MARK KRYZH
ZNAMENNY COMBINING LOWER TONAL RANGE INDICATOR;ZNAMENNY PRIZNAK MODIFIER LEVEL-2
ZNAMENNY PRIZNAK MODIFIER LEVEL-3;ZNAMENNY PRIZNAK MODIFIER DIRECTION FLIP
ZNAMENNY PRIZNAK MODIFIER KRYZH;ZNAMENNY PRIZNAK MODIFIER ROG"),
  (0x1cf50, "ZNAMENNY NEUME KRYUK;ZNAMENNY NEUME KRYUK TIKHY;ZNAMENNY NEUME PARAKLIT
ZNAMENNY NEUME DVA V CHELNU;ZNAMENNY NEUME KLYUCH;ZNAMENNY NEUME ZANOZHEK;ZNAMENNY NEUME STOPITSA
ZNAMENNY NEUME STOPITSA S OCHKOM;ZNAMENNY NEUME PEREVODKA;ZNAMENNY NEUME PEREVODKA NEPOSTOYANNAYA
ZNAMENNY NEUME STOPITSA WITH SOROCHYA NOZHKA;ZNAMENNY NEUME CHELYUSTKA;ZNAMENNY NEUME PALKA
ZNAMENNY NEUME ZAPYATAYA;ZNAMENNY NEUME GOLUBCHIK BORZY;ZNAMENNY NEUME GOLUBCHIK TIKHY
ZNAMENNY NEUME GOLUBCHIK MRACHNY;ZNAMENNY NEUME GOLUBCHIK SVETLY
ZNAMENNY NEUME GOLUBCHIK TRESVETLY;ZNAMENNY NEUME VRAKHIYA PROSTAYA
ZNAMENNY NEUME VRAKHIYA MRACHNAYA;ZNAMENNY NEUME VRAKHIYA SVETLAYA
ZNAMENNY NEUME VRAKHIYA TRESVETLAYA;ZNAMENNY NEUME VRAKHIYA KLYUCHEVAYA PROSTAYA
ZNAMENNY NEUME VRAKHIYA KLYUCHEVAYA MRACHNAYA;ZNAMENNY NEUME VRAKHIYA KLYUCHEVAYA SVETLAYA
ZNAMENNY NEUME VRAKHIYA KLYUCHEVAYA TRESVETLAYA;ZNAMENNY NEUME DOUBLE ZAPYATAYA
ZNAMENNY NEUME REVERSED CHELYUSTKA;ZNAMENNY NEUME DERBITSA;ZNAMENNY NEUME KHAMILO
ZNAMENNY NEUME CHASHKA;ZNAMENNY NEUME PODCHASHIE;ZNAMENNY NEUME SKAMEYTSA MRACHNAYA
ZNAMENNY NEUME SKAMEYTSA SVETLAYA;ZNAMENNY NEUME SKAMEYTSA TRESVETLAYA
ZNAMENNY NEUME SKAMEYTSA TIKHAYA;ZNAMENNY NEUME DEMESTVENNY KLYUCH
ZNAMENNY NEUME SKAMEYTSA KLYUCHEVAYA SVETLAYA;ZNAMENNY NEUME SKAMEYTSA KLYUCHENEPOSTOYANNAYA
ZNAMENNY NEUME SKAMEYTSA KLYUCHEVAYA TIKHAYA;ZNAMENNY NEUME SKAMEYTSA DVOECHELNAYA PROSTAYA
ZNAMENNY NEUME SKAMEYTSA DVOECHELNAYA SVETLAYA
ZNAMENNY NEUME SKAMEYTSA DVOECHELNAYA NEPOSTOYANNAYA
ZNAMENNY NEUME SKAMEYTSA DVOECHELNAYA KLYUCHEVAYA;ZNAMENNY NEUME SLOZHITIE
ZNAMENNY NEUME SLOZHITIE S ZAPYATOY;ZNAMENNY NEUME SLOZHITIE ZAKRYTOE
ZNAMENNY NEUME SLOZHITIE S KRYZHEM;ZNAMENNY NEUME KRYZH;ZNAMENNY NEUME ROG;ZNAMENNY NEUME FITA
ZNAMENNY NEUME KOBYLA;ZNAMENNY NEUME ZMEYTSA;ZNAMENNY NEUME STATYA
ZNAMENNY NEUME STATYA S ZAPYATOY;ZNAMENNY NEUME STATYA S KRYZHEM
ZNAMENNY NEUME STATYA S ZAPYATOY I KRYZHEM;ZNAMENNY NEUME STATYA S KRYZHEM I ZAPYATOY
ZNAMENNY NEUME STATYA ZAKRYTAYA;ZNAMENNY NEUME STATYA ZAKRYTAYA S ZAPYATOY
ZNAMENNY NEUME STATYA S ROGOM;ZNAMENNY NEUME STATYA S DVUMYA ZAPYATYMI
ZNAMENNY NEUME STATYA S ZAPYATOY I PODCHASHIEM;ZNAMENNY NEUME POLKULIZMY
ZNAMENNY NEUME STATYA NEPOSTOYANNAYA;ZNAMENNY NEUME STRELA PROSTAYA
ZNAMENNY NEUME STRELA MRACHNOTIKHAYA;ZNAMENNY NEUME STRELA KRYZHEVAYA
ZNAMENNY NEUME STRELA POLUPOVODNAYA;ZNAMENNY NEUME STRELA POVODNAYA
ZNAMENNY NEUME STRELA NEPOSTOYANNAYA;ZNAMENNY NEUME STRELA KLYUCHEPOVODNAYA
ZNAMENNY NEUME STRELA KLYUCHENEPOSTOYANNAYA;ZNAMENNY NEUME STRELA TIKHAYA PUTNAYA
ZNAMENNY NEUME STRELA DVOECHELNAYA;ZNAMENNY NEUME STRELA DVOECHELNOKRYZHEVAYA
ZNAMENNY NEUME STRELA DVOECHELNOPOVODNAYA;ZNAMENNY NEUME STRELA DVOECHELNAYA KLYUCHEVAYA
ZNAMENNY NEUME STRELA DVOECHELNOPOVODNAYA KLYUCHEVAYA
ZNAMENNY NEUME STRELA GROMNAYA WITH SINGLE ZAPYATAYA
ZNAMENNY NEUME STRELA GROMOPOVODNAYA WITH SINGLE ZAPYATAYA;ZNAMENNY NEUME STRELA GROMNAYA
ZNAMENNY NEUME STRELA GROMOPOVODNAYA;ZNAMENNY NEUME STRELA GROMOPOVODNAYA WITH DOUBLE ZAPYATAYA
ZNAMENNY NEUME STRELA GROMOKRYZHEVAYA;ZNAMENNY NEUME STRELA GROMOKRYZHEVAYA POVODNAYA
ZNAMENNY NEUME MECHIK;ZNAMENNY NEUME MECHIK POVODNY;ZNAMENNY NEUME MECHIK KLYUCHEVOY
ZNAMENNY NEUME MECHIK KLYUCHEPOVODNY;ZNAMENNY NEUME MECHIK KLYUCHENEPOSTOYANNY
ZNAMENNY NEUME STRELA TRYASOGLASNAYA;ZNAMENNY NEUME STRELA TRYASOPOVODNAYA
ZNAMENNY NEUME STRELA TRYASOSTRELNAYA;ZNAMENNY NEUME OSOKA;ZNAMENNY NEUME OSOKA SVETLAYA
ZNAMENNY NEUME OSOKA TRESVETLAYA;ZNAMENNY NEUME OSOKA KRYUKOVAYA SVETLAYA
ZNAMENNY NEUME OSOKA KLYUCHEVAYA SVETLAYA;ZNAMENNY NEUME OSOKA KLYUCHEVAYA NEPOSTOYANNAYA
ZNAMENNY NEUME STRELA KRYUKOVAYA;ZNAMENNY NEUME STRELA KRYUKOVAYA POVODNAYA
ZNAMENNY NEUME STRELA KRYUKOVAYA GROMNAYA WITH SINGLE ZAPYATAYA
ZNAMENNY NEUME STRELA KRYUKOVAYA GROMOPOVODNAYA WITH SINGLE ZAPYATAYA
ZNAMENNY NEUME STRELA KRYUKOVAYA GROMNAYA;ZNAMENNY NEUME STRELA KRYUKOVAYA GROMOPOVODNAYA
ZNAMENNY NEUME STRELA KRYUKOVAYA GROMOPOVODNAYA WITH DOUBLE ZAPYATAYA
ZNAMENNY NEUME STRELA KRYUKOVAYA GROMOKRYZHEVAYA
ZNAMENNY NEUME STRELA KRYUKOVAYA GROMOKRYZHEVAYA POVODNAYA
ZNAMENNY NEUME STRELA KRYUKOVAYA TRYASKA;ZNAMENNY NEUME KUFISMA;ZNAMENNY NEUME OBLAKO
ZNAMENNY NEUME DUDA;ZNAMENNY NEUME NEMKA;ZNAMENNY NEUME PAUK"),
  (0x1d000, "BYZANTINE MUSICAL SYMBOL PSILI;BYZANTINE MUSICAL SYMBOL DASEIA
BYZANTINE MUSICAL SYMBOL PERISPOMENI;BYZANTINE MUSICAL SYMBOL OXEIA EKFONITIKON
BYZANTINE MUSICAL SYMBOL OXEIA DIPLI;BYZANTINE MUSICAL SYMBOL VAREIA EKFONITIKON
BYZANTINE MUSICAL SYMBOL VAREIA DIPLI;BYZANTINE MUSICAL SYMBOL KATHISTI
BYZANTINE MUSICAL SYMBOL SYRMATIKI;BYZANTINE MUSICAL SYMBOL PARAKLITIKI
BYZANTINE MUSICAL SYMBOL YPOKRISIS;BYZANTINE MUSICAL SYMBOL YPOKRISIS DIPLI
BYZANTINE MUSICAL SYMBOL KREMASTI;BYZANTINE MUSICAL SYMBOL APESO EKFONITIKON
BYZANTINE MUSICAL SYMBOL EXO EKFONITIKON;BYZANTINE MUSICAL SYMBOL TELEIA
BYZANTINE MUSICAL SYMBOL KENTIMATA;BYZANTINE MUSICAL SYMBOL APOSTROFOS
BYZANTINE MUSICAL SYMBOL APOSTROFOS DIPLI;BYZANTINE MUSICAL SYMBOL SYNEVMA
BYZANTINE MUSICAL SYMBOL THITA;BYZANTINE MUSICAL SYMBOL OLIGON ARCHAION
BYZANTINE MUSICAL SYMBOL GORGON ARCHAION;BYZANTINE MUSICAL SYMBOL PSILON
BYZANTINE MUSICAL SYMBOL CHAMILON;BYZANTINE MUSICAL SYMBOL VATHY
BYZANTINE MUSICAL SYMBOL ISON ARCHAION;BYZANTINE MUSICAL SYMBOL KENTIMA ARCHAION
BYZANTINE MUSICAL SYMBOL KENTIMATA ARCHAION;BYZANTINE MUSICAL SYMBOL SAXIMATA
BYZANTINE MUSICAL SYMBOL PARICHON;BYZANTINE MUSICAL SYMBOL STAVROS APODEXIA
BYZANTINE MUSICAL SYMBOL OXEIAI ARCHAION;BYZANTINE MUSICAL SYMBOL VAREIAI ARCHAION
BYZANTINE MUSICAL SYMBOL APODERMA ARCHAION;BYZANTINE MUSICAL SYMBOL APOTHEMA
BYZANTINE MUSICAL SYMBOL KLASMA;BYZANTINE MUSICAL SYMBOL REVMA
BYZANTINE MUSICAL SYMBOL PIASMA ARCHAION;BYZANTINE MUSICAL SYMBOL TINAGMA
BYZANTINE MUSICAL SYMBOL ANATRICHISMA;BYZANTINE MUSICAL SYMBOL SEISMA
BYZANTINE MUSICAL SYMBOL SYNAGMA ARCHAION;BYZANTINE MUSICAL SYMBOL SYNAGMA META STAVROU
BYZANTINE MUSICAL SYMBOL OYRANISMA ARCHAION;BYZANTINE MUSICAL SYMBOL THEMA
BYZANTINE MUSICAL SYMBOL LEMOI;BYZANTINE MUSICAL SYMBOL DYO;BYZANTINE MUSICAL SYMBOL TRIA
BYZANTINE MUSICAL SYMBOL TESSERA;BYZANTINE MUSICAL SYMBOL KRATIMATA
BYZANTINE MUSICAL SYMBOL APESO EXO NEO;BYZANTINE MUSICAL SYMBOL FTHORA ARCHAION
BYZANTINE MUSICAL SYMBOL IMIFTHORA;BYZANTINE MUSICAL SYMBOL TROMIKON ARCHAION
BYZANTINE MUSICAL SYMBOL KATAVA TROMIKON;BYZANTINE MUSICAL SYMBOL PELASTON
BYZANTINE MUSICAL SYMBOL PSIFISTON;BYZANTINE MUSICAL SYMBOL KONTEVMA
BYZANTINE MUSICAL SYMBOL CHOREVMA ARCHAION;BYZANTINE MUSICAL SYMBOL RAPISMA
BYZANTINE MUSICAL SYMBOL PARAKALESMA ARCHAION;BYZANTINE MUSICAL SYMBOL PARAKLITIKI ARCHAION
BYZANTINE MUSICAL SYMBOL ICHADIN;BYZANTINE MUSICAL SYMBOL NANA;BYZANTINE MUSICAL SYMBOL PETASMA
BYZANTINE MUSICAL SYMBOL KONTEVMA ALLO;BYZANTINE MUSICAL SYMBOL TROMIKON ALLO
BYZANTINE MUSICAL SYMBOL STRAGGISMATA;BYZANTINE MUSICAL SYMBOL GRONTHISMATA
BYZANTINE MUSICAL SYMBOL ISON NEO;BYZANTINE MUSICAL SYMBOL OLIGON NEO
BYZANTINE MUSICAL SYMBOL OXEIA NEO;BYZANTINE MUSICAL SYMBOL PETASTI
BYZANTINE MUSICAL SYMBOL KOUFISMA;BYZANTINE MUSICAL SYMBOL PETASTOKOUFISMA
BYZANTINE MUSICAL SYMBOL KRATIMOKOUFISMA;BYZANTINE MUSICAL SYMBOL PELASTON NEO
BYZANTINE MUSICAL SYMBOL KENTIMATA NEO ANO;BYZANTINE MUSICAL SYMBOL KENTIMA NEO ANO
BYZANTINE MUSICAL SYMBOL YPSILI;BYZANTINE MUSICAL SYMBOL APOSTROFOS NEO
BYZANTINE MUSICAL SYMBOL APOSTROFOI SYNDESMOS NEO;BYZANTINE MUSICAL SYMBOL YPORROI
BYZANTINE MUSICAL SYMBOL KRATIMOYPORROON;BYZANTINE MUSICAL SYMBOL ELAFRON
BYZANTINE MUSICAL SYMBOL CHAMILI;BYZANTINE MUSICAL SYMBOL MIKRON ISON
BYZANTINE MUSICAL SYMBOL VAREIA NEO;BYZANTINE MUSICAL SYMBOL PIASMA NEO
BYZANTINE MUSICAL SYMBOL PSIFISTON NEO;BYZANTINE MUSICAL SYMBOL OMALON
BYZANTINE MUSICAL SYMBOL ANTIKENOMA;BYZANTINE MUSICAL SYMBOL LYGISMA
BYZANTINE MUSICAL SYMBOL PARAKLITIKI NEO;BYZANTINE MUSICAL SYMBOL PARAKALESMA NEO
BYZANTINE MUSICAL SYMBOL ETERON PARAKALESMA;BYZANTINE MUSICAL SYMBOL KYLISMA
BYZANTINE MUSICAL SYMBOL ANTIKENOKYLISMA;BYZANTINE MUSICAL SYMBOL TROMIKON NEO
BYZANTINE MUSICAL SYMBOL EKSTREPTON;BYZANTINE MUSICAL SYMBOL SYNAGMA NEO
BYZANTINE MUSICAL SYMBOL SYRMA;BYZANTINE MUSICAL SYMBOL CHOREVMA NEO
BYZANTINE MUSICAL SYMBOL EPEGERMA;BYZANTINE MUSICAL SYMBOL SEISMA NEO
BYZANTINE MUSICAL SYMBOL XIRON KLASMA;BYZANTINE MUSICAL SYMBOL TROMIKOPSIFISTON
BYZANTINE MUSICAL SYMBOL PSIFISTOLYGISMA;BYZANTINE MUSICAL SYMBOL TROMIKOLYGISMA
BYZANTINE MUSICAL SYMBOL TROMIKOPARAKALESMA;BYZANTINE MUSICAL SYMBOL PSIFISTOPARAKALESMA
BYZANTINE MUSICAL SYMBOL TROMIKOSYNAGMA;BYZANTINE MUSICAL SYMBOL PSIFISTOSYNAGMA
BYZANTINE MUSICAL SYMBOL GORGOSYNTHETON;BYZANTINE MUSICAL SYMBOL ARGOSYNTHETON
BYZANTINE MUSICAL SYMBOL ETERON ARGOSYNTHETON;BYZANTINE MUSICAL SYMBOL OYRANISMA NEO
BYZANTINE MUSICAL SYMBOL THEMATISMOS ESO;BYZANTINE MUSICAL SYMBOL THEMATISMOS EXO
BYZANTINE MUSICAL SYMBOL THEMA APLOUN;BYZANTINE MUSICAL SYMBOL THES KAI APOTHES
BYZANTINE MUSICAL SYMBOL KATAVASMA;BYZANTINE MUSICAL SYMBOL ENDOFONON
BYZANTINE MUSICAL SYMBOL YFEN KATO;BYZANTINE MUSICAL SYMBOL YFEN ANO
BYZANTINE MUSICAL SYMBOL STAVROS;BYZANTINE MUSICAL SYMBOL KLASMA ANO
BYZANTINE MUSICAL SYMBOL DIPLI ARCHAION;BYZANTINE MUSICAL SYMBOL KRATIMA ARCHAION
BYZANTINE MUSICAL SYMBOL KRATIMA ALLO;BYZANTINE MUSICAL SYMBOL KRATIMA NEO
BYZANTINE MUSICAL SYMBOL APODERMA NEO;BYZANTINE MUSICAL SYMBOL APLI
BYZANTINE MUSICAL SYMBOL DIPLI;BYZANTINE MUSICAL SYMBOL TRIPLI;BYZANTINE MUSICAL SYMBOL TETRAPLI
BYZANTINE MUSICAL SYMBOL KORONIS;BYZANTINE MUSICAL SYMBOL LEIMMA ENOS CHRONOU
BYZANTINE MUSICAL SYMBOL LEIMMA DYO CHRONON;BYZANTINE MUSICAL SYMBOL LEIMMA TRION CHRONON
BYZANTINE MUSICAL SYMBOL LEIMMA TESSARON CHRONON;BYZANTINE MUSICAL SYMBOL LEIMMA IMISEOS CHRONOU
BYZANTINE MUSICAL SYMBOL GORGON NEO ANO;BYZANTINE MUSICAL SYMBOL GORGON PARESTIGMENON ARISTERA
BYZANTINE MUSICAL SYMBOL GORGON PARESTIGMENON DEXIA;BYZANTINE MUSICAL SYMBOL DIGORGON
BYZANTINE MUSICAL SYMBOL DIGORGON PARESTIGMENON ARISTERA KATO
BYZANTINE MUSICAL SYMBOL DIGORGON PARESTIGMENON ARISTERA ANO
BYZANTINE MUSICAL SYMBOL DIGORGON PARESTIGMENON DEXIA;BYZANTINE MUSICAL SYMBOL TRIGORGON
BYZANTINE MUSICAL SYMBOL ARGON;BYZANTINE MUSICAL SYMBOL IMIDIARGON
BYZANTINE MUSICAL SYMBOL DIARGON;BYZANTINE MUSICAL SYMBOL AGOGI POLI ARGI
BYZANTINE MUSICAL SYMBOL AGOGI ARGOTERI;BYZANTINE MUSICAL SYMBOL AGOGI ARGI
BYZANTINE MUSICAL SYMBOL AGOGI METRIA;BYZANTINE MUSICAL SYMBOL AGOGI MESI
BYZANTINE MUSICAL SYMBOL AGOGI GORGI;BYZANTINE MUSICAL SYMBOL AGOGI GORGOTERI
BYZANTINE MUSICAL SYMBOL AGOGI POLI GORGI;BYZANTINE MUSICAL SYMBOL MARTYRIA PROTOS ICHOS
BYZANTINE MUSICAL SYMBOL MARTYRIA ALLI PROTOS ICHOS
BYZANTINE MUSICAL SYMBOL MARTYRIA DEYTEROS ICHOS
BYZANTINE MUSICAL SYMBOL MARTYRIA ALLI DEYTEROS ICHOS
BYZANTINE MUSICAL SYMBOL MARTYRIA TRITOS ICHOS;BYZANTINE MUSICAL SYMBOL MARTYRIA TRIFONIAS
BYZANTINE MUSICAL SYMBOL MARTYRIA TETARTOS ICHOS
BYZANTINE MUSICAL SYMBOL MARTYRIA TETARTOS LEGETOS ICHOS
BYZANTINE MUSICAL SYMBOL MARTYRIA LEGETOS ICHOS;BYZANTINE MUSICAL SYMBOL MARTYRIA PLAGIOS ICHOS
BYZANTINE MUSICAL SYMBOL ISAKIA TELOUS ICHIMATOS
BYZANTINE MUSICAL SYMBOL APOSTROFOI TELOUS ICHIMATOS
BYZANTINE MUSICAL SYMBOL FANEROSIS TETRAFONIAS;BYZANTINE MUSICAL SYMBOL FANEROSIS MONOFONIAS
BYZANTINE MUSICAL SYMBOL FANEROSIS DIFONIAS;BYZANTINE MUSICAL SYMBOL MARTYRIA VARYS ICHOS
BYZANTINE MUSICAL SYMBOL MARTYRIA PROTOVARYS ICHOS
BYZANTINE MUSICAL SYMBOL MARTYRIA PLAGIOS TETARTOS ICHOS
BYZANTINE MUSICAL SYMBOL GORTHMIKON N APLOUN;BYZANTINE MUSICAL SYMBOL GORTHMIKON N DIPLOUN
BYZANTINE MUSICAL SYMBOL ENARXIS KAI FTHORA VOU;BYZANTINE MUSICAL SYMBOL IMIFONON
BYZANTINE MUSICAL SYMBOL IMIFTHORON;BYZANTINE MUSICAL SYMBOL FTHORA ARCHAION DEYTEROU ICHOU
BYZANTINE MUSICAL SYMBOL FTHORA DIATONIKI PA;BYZANTINE MUSICAL SYMBOL FTHORA DIATONIKI NANA
BYZANTINE MUSICAL SYMBOL FTHORA NAOS ICHOS;BYZANTINE MUSICAL SYMBOL FTHORA DIATONIKI DI
BYZANTINE MUSICAL SYMBOL FTHORA SKLIRON DIATONON DI;BYZANTINE MUSICAL SYMBOL FTHORA DIATONIKI KE
BYZANTINE MUSICAL SYMBOL FTHORA DIATONIKI ZO;BYZANTINE MUSICAL SYMBOL FTHORA DIATONIKI NI KATO
BYZANTINE MUSICAL SYMBOL FTHORA DIATONIKI NI ANO
BYZANTINE MUSICAL SYMBOL FTHORA MALAKON CHROMA DIFONIAS
BYZANTINE MUSICAL SYMBOL FTHORA MALAKON CHROMA MONOFONIAS
BYZANTINE MUSICAL SYMBOL FHTORA SKLIRON CHROMA VASIS
BYZANTINE MUSICAL SYMBOL FTHORA SKLIRON CHROMA SYNAFI;BYZANTINE MUSICAL SYMBOL FTHORA NENANO
BYZANTINE MUSICAL SYMBOL CHROA ZYGOS;BYZANTINE MUSICAL SYMBOL CHROA KLITON
BYZANTINE MUSICAL SYMBOL CHROA SPATHI;BYZANTINE MUSICAL SYMBOL FTHORA I YFESIS TETARTIMORION
BYZANTINE MUSICAL SYMBOL FTHORA ENARMONIOS ANTIFONIA;BYZANTINE MUSICAL SYMBOL YFESIS TRITIMORION
BYZANTINE MUSICAL SYMBOL DIESIS TRITIMORION;BYZANTINE MUSICAL SYMBOL DIESIS TETARTIMORION
BYZANTINE MUSICAL SYMBOL DIESIS APLI DYO DODEKATA
BYZANTINE MUSICAL SYMBOL DIESIS MONOGRAMMOS TESSERA DODEKATA
BYZANTINE MUSICAL SYMBOL DIESIS DIGRAMMOS EX DODEKATA
BYZANTINE MUSICAL SYMBOL DIESIS TRIGRAMMOS OKTO DODEKATA
BYZANTINE MUSICAL SYMBOL YFESIS APLI DYO DODEKATA
BYZANTINE MUSICAL SYMBOL YFESIS MONOGRAMMOS TESSERA DODEKATA
BYZANTINE MUSICAL SYMBOL YFESIS DIGRAMMOS EX DODEKATA
BYZANTINE MUSICAL SYMBOL YFESIS TRIGRAMMOS OKTO DODEKATA;BYZANTINE MUSICAL SYMBOL GENIKI DIESIS
BYZANTINE MUSICAL SYMBOL GENIKI YFESIS;BYZANTINE MUSICAL SYMBOL DIASTOLI APLI MIKRI
BYZANTINE MUSICAL SYMBOL DIASTOLI APLI MEGALI;BYZANTINE MUSICAL SYMBOL DIASTOLI DIPLI
BYZANTINE MUSICAL SYMBOL DIASTOLI THESEOS;BYZANTINE MUSICAL SYMBOL SIMANSIS THESEOS
BYZANTINE MUSICAL SYMBOL SIMANSIS THESEOS DISIMOU
BYZANTINE MUSICAL SYMBOL SIMANSIS THESEOS TRISIMOU
BYZANTINE MUSICAL SYMBOL SIMANSIS THESEOS TETRASIMOU;BYZANTINE MUSICAL SYMBOL SIMANSIS ARSEOS
BYZANTINE MUSICAL SYMBOL SIMANSIS ARSEOS DISIMOU
BYZANTINE MUSICAL SYMBOL SIMANSIS ARSEOS TRISIMOU
BYZANTINE MUSICAL SYMBOL SIMANSIS ARSEOS TETRASIMOU;BYZANTINE MUSICAL SYMBOL DIGRAMMA GG
BYZANTINE MUSICAL SYMBOL DIFTOGGOS OU;BYZANTINE MUSICAL SYMBOL STIGMA
BYZANTINE MUSICAL SYMBOL ARKTIKO PA;BYZANTINE MUSICAL SYMBOL ARKTIKO VOU
BYZANTINE MUSICAL SYMBOL ARKTIKO GA;BYZANTINE MUSICAL SYMBOL ARKTIKO DI
BYZANTINE MUSICAL SYMBOL ARKTIKO KE;BYZANTINE MUSICAL SYMBOL ARKTIKO ZO
BYZANTINE MUSICAL SYMBOL ARKTIKO NI;BYZANTINE MUSICAL SYMBOL KENTIMATA NEO MESO
BYZANTINE MUSICAL SYMBOL KENTIMA NEO MESO;BYZANTINE MUSICAL SYMBOL KENTIMATA NEO KATO
BYZANTINE MUSICAL SYMBOL KENTIMA NEO KATO;BYZANTINE MUSICAL SYMBOL KLASMA KATO
BYZANTINE MUSICAL SYMBOL GORGON NEO KATO"),
  (0x1d100, "MUSICAL SYMBOL SINGLE BARLINE;MUSICAL SYMBOL DOUBLE BARLINE
MUSICAL SYMBOL FINAL BARLINE;MUSICAL SYMBOL REVERSE FINAL BARLINE;MUSICAL SYMBOL DASHED BARLINE
MUSICAL SYMBOL SHORT BARLINE;MUSICAL SYMBOL LEFT REPEAT SIGN;MUSICAL SYMBOL RIGHT REPEAT SIGN
MUSICAL SYMBOL REPEAT DOTS;MUSICAL SYMBOL DAL SEGNO;MUSICAL SYMBOL DA CAPO;MUSICAL SYMBOL SEGNO
MUSICAL SYMBOL CODA;MUSICAL SYMBOL REPEATED FIGURE-1;MUSICAL SYMBOL REPEATED FIGURE-2
MUSICAL SYMBOL REPEATED FIGURE-3;MUSICAL SYMBOL FERMATA;MUSICAL SYMBOL FERMATA BELOW
MUSICAL SYMBOL BREATH MARK;MUSICAL SYMBOL CAESURA;MUSICAL SYMBOL BRACE;MUSICAL SYMBOL BRACKET
MUSICAL SYMBOL ONE-LINE STAFF;MUSICAL SYMBOL TWO-LINE STAFF;MUSICAL SYMBOL THREE-LINE STAFF
MUSICAL SYMBOL FOUR-LINE STAFF;MUSICAL SYMBOL FIVE-LINE STAFF;MUSICAL SYMBOL SIX-LINE STAFF
MUSICAL SYMBOL SIX-STRING FRETBOARD;MUSICAL SYMBOL FOUR-STRING FRETBOARD;MUSICAL SYMBOL G CLEF
MUSICAL SYMBOL G CLEF OTTAVA ALTA;MUSICAL SYMBOL G CLEF OTTAVA BASSA;MUSICAL SYMBOL C CLEF
MUSICAL SYMBOL F CLEF;MUSICAL SYMBOL F CLEF OTTAVA ALTA;MUSICAL SYMBOL F CLEF OTTAVA BASSA
MUSICAL SYMBOL DRUM CLEF-1;MUSICAL SYMBOL DRUM CLEF-2"),
  (0x1d129, "MUSICAL SYMBOL MULTIPLE MEASURE REST;MUSICAL SYMBOL DOUBLE SHARP
MUSICAL SYMBOL DOUBLE FLAT;MUSICAL SYMBOL FLAT UP;MUSICAL SYMBOL FLAT DOWN
MUSICAL SYMBOL NATURAL UP;MUSICAL SYMBOL NATURAL DOWN;MUSICAL SYMBOL SHARP UP
MUSICAL SYMBOL SHARP DOWN;MUSICAL SYMBOL QUARTER TONE SHARP;MUSICAL SYMBOL QUARTER TONE FLAT
MUSICAL SYMBOL COMMON TIME;MUSICAL SYMBOL CUT TIME;MUSICAL SYMBOL OTTAVA ALTA
MUSICAL SYMBOL OTTAVA BASSA;MUSICAL SYMBOL QUINDICESIMA ALTA;MUSICAL SYMBOL QUINDICESIMA BASSA
MUSICAL SYMBOL MULTI REST;MUSICAL SYMBOL WHOLE REST;MUSICAL SYMBOL HALF REST
MUSICAL SYMBOL QUARTER REST;MUSICAL SYMBOL EIGHTH REST;MUSICAL SYMBOL SIXTEENTH REST
MUSICAL SYMBOL THIRTY-SECOND REST;MUSICAL SYMBOL SIXTY-FOURTH REST
MUSICAL SYMBOL ONE HUNDRED TWENTY-EIGHTH REST;MUSICAL SYMBOL X NOTEHEAD
MUSICAL SYMBOL PLUS NOTEHEAD;MUSICAL SYMBOL CIRCLE X NOTEHEAD
MUSICAL SYMBOL SQUARE NOTEHEAD WHITE;MUSICAL SYMBOL SQUARE NOTEHEAD BLACK
MUSICAL SYMBOL TRIANGLE NOTEHEAD UP WHITE;MUSICAL SYMBOL TRIANGLE NOTEHEAD UP BLACK
MUSICAL SYMBOL TRIANGLE NOTEHEAD LEFT WHITE;MUSICAL SYMBOL TRIANGLE NOTEHEAD LEFT BLACK
MUSICAL SYMBOL TRIANGLE NOTEHEAD RIGHT WHITE;MUSICAL SYMBOL TRIANGLE NOTEHEAD RIGHT BLACK
MUSICAL SYMBOL TRIANGLE NOTEHEAD DOWN WHITE;MUSICAL SYMBOL TRIANGLE NOTEHEAD DOWN BLACK
MUSICAL SYMBOL TRIANGLE NOTEHEAD UP RIGHT WHITE;MUSICAL SYMBOL TRIANGLE NOTEHEAD UP RIGHT BLACK
MUSICAL SYMBOL MOON NOTEHEAD WHITE;MUSICAL SYMBOL MOON NOTEHEAD BLACK
MUSICAL SYMBOL TRIANGLE-ROUND NOTEHEAD DOWN WHITE
MUSICAL SYMBOL TRIANGLE-ROUND NOTEHEAD DOWN BLACK;MUSICAL SYMBOL PARENTHESIS NOTEHEAD
MUSICAL SYMBOL VOID NOTEHEAD;MUSICAL SYMBOL NOTEHEAD BLACK;MUSICAL SYMBOL NULL NOTEHEAD
MUSICAL SYMBOL CLUSTER NOTEHEAD WHITE;MUSICAL SYMBOL CLUSTER NOTEHEAD BLACK;MUSICAL SYMBOL BREVE
MUSICAL SYMBOL WHOLE NOTE;MUSICAL SYMBOL HALF NOTE;MUSICAL SYMBOL QUARTER NOTE
MUSICAL SYMBOL EIGHTH NOTE;MUSICAL SYMBOL SIXTEENTH NOTE;MUSICAL SYMBOL THIRTY-SECOND NOTE
MUSICAL SYMBOL SIXTY-FOURTH NOTE;MUSICAL SYMBOL ONE HUNDRED TWENTY-EIGHTH NOTE
MUSICAL SYMBOL COMBINING STEM;MUSICAL SYMBOL COMBINING SPRECHGESANG STEM
MUSICAL SYMBOL COMBINING TREMOLO-1;MUSICAL SYMBOL COMBINING TREMOLO-2
MUSICAL SYMBOL COMBINING TREMOLO-3;MUSICAL SYMBOL FINGERED TREMOLO-1
MUSICAL SYMBOL FINGERED TREMOLO-2;MUSICAL SYMBOL FINGERED TREMOLO-3
MUSICAL SYMBOL COMBINING AUGMENTATION DOT;MUSICAL SYMBOL COMBINING FLAG-1
MUSICAL SYMBOL COMBINING FLAG-2;MUSICAL SYMBOL COMBINING FLAG-3;MUSICAL SYMBOL COMBINING FLAG-4
MUSICAL SYMBOL COMBINING FLAG-5;MUSICAL SYMBOL BEGIN BEAM;MUSICAL SYMBOL END BEAM
MUSICAL SYMBOL BEGIN TIE;MUSICAL SYMBOL END TIE;MUSICAL SYMBOL BEGIN SLUR;MUSICAL SYMBOL END SLUR
MUSICAL SYMBOL BEGIN PHRASE;MUSICAL SYMBOL END PHRASE;MUSICAL SYMBOL COMBINING ACCENT
MUSICAL SYMBOL COMBINING STACCATO;MUSICAL SYMBOL COMBINING TENUTO
MUSICAL SYMBOL COMBINING STACCATISSIMO;MUSICAL SYMBOL COMBINING MARCATO
MUSICAL SYMBOL COMBINING MARCATO-STACCATO;MUSICAL SYMBOL COMBINING ACCENT-STACCATO
MUSICAL SYMBOL COMBINING LOURE;MUSICAL SYMBOL ARPEGGIATO UP;MUSICAL SYMBOL ARPEGGIATO DOWN
MUSICAL SYMBOL COMBINING DOIT;MUSICAL SYMBOL COMBINING RIP;MUSICAL SYMBOL COMBINING FLIP
MUSICAL SYMBOL COMBINING SMEAR;MUSICAL SYMBOL COMBINING BEND
MUSICAL SYMBOL COMBINING DOUBLE TONGUE;MUSICAL SYMBOL COMBINING TRIPLE TONGUE
MUSICAL SYMBOL RINFORZANDO;MUSICAL SYMBOL SUBITO;MUSICAL SYMBOL Z;MUSICAL SYMBOL PIANO
MUSICAL SYMBOL MEZZO;MUSICAL SYMBOL FORTE;MUSICAL SYMBOL CRESCENDO;MUSICAL SYMBOL DECRESCENDO
MUSICAL SYMBOL GRACE NOTE SLASH;MUSICAL SYMBOL GRACE NOTE NO SLASH;MUSICAL SYMBOL TR
MUSICAL SYMBOL TURN;MUSICAL SYMBOL INVERTED TURN;MUSICAL SYMBOL TURN SLASH;MUSICAL SYMBOL TURN UP
MUSICAL SYMBOL ORNAMENT STROKE-1;MUSICAL SYMBOL ORNAMENT STROKE-2
MUSICAL SYMBOL ORNAMENT STROKE-3;MUSICAL SYMBOL ORNAMENT STROKE-4
MUSICAL SYMBOL ORNAMENT STROKE-5;MUSICAL SYMBOL ORNAMENT STROKE-6
MUSICAL SYMBOL ORNAMENT STROKE-7;MUSICAL SYMBOL ORNAMENT STROKE-8
MUSICAL SYMBOL ORNAMENT STROKE-9;MUSICAL SYMBOL ORNAMENT STROKE-10
MUSICAL SYMBOL ORNAMENT STROKE-11;MUSICAL SYMBOL HAUPTSTIMME;MUSICAL SYMBOL NEBENSTIMME
MUSICAL SYMBOL END OF STIMME;MUSICAL SYMBOL DEGREE SLASH;MUSICAL SYMBOL COMBINING DOWN BOW
MUSICAL SYMBOL COMBINING UP BOW;MUSICAL SYMBOL COMBINING HARMONIC
MUSICAL SYMBOL COMBINING SNAP PIZZICATO;MUSICAL SYMBOL PEDAL MARK;MUSICAL SYMBOL PEDAL UP MARK
MUSICAL SYMBOL HALF PEDAL MARK;MUSICAL SYMBOL GLISSANDO UP;MUSICAL SYMBOL GLISSANDO DOWN
MUSICAL SYMBOL WITH FINGERNAILS;MUSICAL SYMBOL DAMP;MUSICAL SYMBOL DAMP ALL;MUSICAL SYMBOL MAXIMA
MUSICAL SYMBOL LONGA;MUSICAL SYMBOL BREVIS;MUSICAL SYMBOL SEMIBREVIS WHITE
MUSICAL SYMBOL SEMIBREVIS BLACK;MUSICAL SYMBOL MINIMA;MUSICAL SYMBOL MINIMA BLACK
MUSICAL SYMBOL SEMIMINIMA WHITE;MUSICAL SYMBOL SEMIMINIMA BLACK;MUSICAL SYMBOL FUSA WHITE
MUSICAL SYMBOL FUSA BLACK;MUSICAL SYMBOL LONGA PERFECTA REST;MUSICAL SYMBOL LONGA IMPERFECTA REST
MUSICAL SYMBOL BREVIS REST;MUSICAL SYMBOL SEMIBREVIS REST;MUSICAL SYMBOL MINIMA REST
MUSICAL SYMBOL SEMIMINIMA REST;MUSICAL SYMBOL TEMPUS PERFECTUM CUM PROLATIONE PERFECTA
MUSICAL SYMBOL TEMPUS PERFECTUM CUM PROLATIONE IMPERFECTA
MUSICAL SYMBOL TEMPUS PERFECTUM CUM PROLATIONE PERFECTA DIMINUTION-1
MUSICAL SYMBOL TEMPUS IMPERFECTUM CUM PROLATIONE PERFECTA
MUSICAL SYMBOL TEMPUS IMPERFECTUM CUM PROLATIONE IMPERFECTA
MUSICAL SYMBOL TEMPUS IMPERFECTUM CUM PROLATIONE IMPERFECTA DIMINUTION-1
MUSICAL SYMBOL TEMPUS IMPERFECTUM CUM PROLATIONE IMPERFECTA DIMINUTION-2
MUSICAL SYMBOL TEMPUS IMPERFECTUM CUM PROLATIONE IMPERFECTA DIMINUTION-3;MUSICAL SYMBOL CROIX
MUSICAL SYMBOL GREGORIAN C CLEF;MUSICAL SYMBOL GREGORIAN F CLEF;MUSICAL SYMBOL SQUARE B
MUSICAL SYMBOL VIRGA;MUSICAL SYMBOL PODATUS;MUSICAL SYMBOL CLIVIS;MUSICAL SYMBOL SCANDICUS
MUSICAL SYMBOL CLIMACUS;MUSICAL SYMBOL TORCULUS;MUSICAL SYMBOL PORRECTUS
MUSICAL SYMBOL PORRECTUS FLEXUS;MUSICAL SYMBOL SCANDICUS FLEXUS;MUSICAL SYMBOL TORCULUS RESUPINUS
MUSICAL SYMBOL PES SUBPUNCTIS;MUSICAL SYMBOL KIEVAN C CLEF;MUSICAL SYMBOL KIEVAN END OF PIECE
MUSICAL SYMBOL KIEVAN FINAL NOTE;MUSICAL SYMBOL KIEVAN RECITATIVE MARK
MUSICAL SYMBOL KIEVAN WHOLE NOTE;MUSICAL SYMBOL KIEVAN HALF NOTE
MUSICAL SYMBOL KIEVAN QUARTER NOTE STEM DOWN;MUSICAL SYMBOL KIEVAN QUARTER NOTE STEM UP
MUSICAL SYMBOL KIEVAN EIGHTH NOTE STEM DOWN;MUSICAL SYMBOL KIEVAN EIGHTH NOTE STEM UP
MUSICAL SYMBOL KIEVAN FLAT SIGN;MUSICAL SYMBOL SORI;MUSICAL SYMBOL KORON"),
  (0x1d200, "GREEK VOCAL NOTATION SYMBOL-1;GREEK VOCAL NOTATION SYMBOL-2
GREEK VOCAL NOTATION SYMBOL-3;GREEK VOCAL NOTATION SYMBOL-4;GREEK VOCAL NOTATION SYMBOL-5
GREEK VOCAL NOTATION SYMBOL-6;GREEK VOCAL NOTATION SYMBOL-7;GREEK VOCAL NOTATION SYMBOL-8
GREEK VOCAL NOTATION SYMBOL-9;GREEK VOCAL NOTATION SYMBOL-10;GREEK VOCAL NOTATION SYMBOL-11
GREEK VOCAL NOTATION SYMBOL-12;GREEK VOCAL NOTATION SYMBOL-13;GREEK VOCAL NOTATION SYMBOL-14
GREEK VOCAL NOTATION SYMBOL-15;GREEK VOCAL NOTATION SYMBOL-16;GREEK VOCAL NOTATION SYMBOL-17
GREEK VOCAL NOTATION SYMBOL-18;GREEK VOCAL NOTATION SYMBOL-19;GREEK VOCAL NOTATION SYMBOL-20
GREEK VOCAL NOTATION SYMBOL-21;GREEK VOCAL NOTATION SYMBOL-22;GREEK VOCAL NOTATION SYMBOL-23
GREEK VOCAL NOTATION SYMBOL-24;GREEK VOCAL NOTATION SYMBOL-50;GREEK VOCAL NOTATION SYMBOL-51
GREEK VOCAL NOTATION SYMBOL-52;GREEK VOCAL NOTATION SYMBOL-53;GREEK VOCAL NOTATION SYMBOL-54
GREEK INSTRUMENTAL NOTATION SYMBOL-1;GREEK INSTRUMENTAL NOTATION SYMBOL-2
GREEK INSTRUMENTAL NOTATION SYMBOL-4;GREEK INSTRUMENTAL NOTATION SYMBOL-5
GREEK INSTRUMENTAL NOTATION SYMBOL-7;GREEK INSTRUMENTAL NOTATION SYMBOL-8
GREEK INSTRUMENTAL NOTATION SYMBOL-11;GREEK INSTRUMENTAL NOTATION SYMBOL-12
GREEK INSTRUMENTAL NOTATION SYMBOL-13;GREEK INSTRUMENTAL NOTATION SYMBOL-14
GREEK INSTRUMENTAL NOTATION SYMBOL-17;GREEK INSTRUMENTAL NOTATION SYMBOL-18
GREEK INSTRUMENTAL NOTATION SYMBOL-19;GREEK INSTRUMENTAL NOTATION SYMBOL-23
GREEK INSTRUMENTAL NOTATION SYMBOL-24;GREEK INSTRUMENTAL NOTATION SYMBOL-25
GREEK INSTRUMENTAL NOTATION SYMBOL-26;GREEK INSTRUMENTAL NOTATION SYMBOL-27
GREEK INSTRUMENTAL NOTATION SYMBOL-29;GREEK INSTRUMENTAL NOTATION SYMBOL-30
GREEK INSTRUMENTAL NOTATION SYMBOL-32;GREEK INSTRUMENTAL NOTATION SYMBOL-36
GREEK INSTRUMENTAL NOTATION SYMBOL-37;GREEK INSTRUMENTAL NOTATION SYMBOL-38
GREEK INSTRUMENTAL NOTATION SYMBOL-39;GREEK INSTRUMENTAL NOTATION SYMBOL-40
GREEK INSTRUMENTAL NOTATION SYMBOL-42;GREEK INSTRUMENTAL NOTATION SYMBOL-43
GREEK INSTRUMENTAL NOTATION SYMBOL-45;GREEK INSTRUMENTAL NOTATION SYMBOL-47
GREEK INSTRUMENTAL NOTATION SYMBOL-48;GREEK INSTRUMENTAL NOTATION SYMBOL-49
GREEK INSTRUMENTAL NOTATION SYMBOL-50;GREEK INSTRUMENTAL NOTATION SYMBOL-51
GREEK INSTRUMENTAL NOTATION SYMBOL-52;GREEK INSTRUMENTAL NOTATION SYMBOL-53
GREEK INSTRUMENTAL NOTATION SYMBOL-54;COMBINING GREEK MUSICAL TRISEME
COMBINING GREEK MUSICAL TETRASEME;COMBINING GREEK MUSICAL PENTASEME;GREEK MUSICAL LEIMMA"),
  (0x1d2e0, "MAYAN NUMERAL ZERO;MAYAN NUMERAL ONE;MAYAN NUMERAL TWO;MAYAN NUMERAL THREE
MAYAN NUMERAL FOUR;MAYAN NUMERAL FIVE;MAYAN NUMERAL SIX;MAYAN NUMERAL SEVEN;MAYAN NUMERAL EIGHT
MAYAN NUMERAL NINE;MAYAN NUMERAL TEN;MAYAN NUMERAL ELEVEN;MAYAN NUMERAL TWELVE
MAYAN NUMERAL THIRTEEN;MAYAN NUMERAL FOURTEEN;MAYAN NUMERAL FIFTEEN;MAYAN NUMERAL SIXTEEN
MAYAN NUMERAL SEVENTEEN;MAYAN NUMERAL EIGHTEEN;MAYAN NUMERAL NINETEEN"),
  (0x1d300, "MONOGRAM FOR EARTH;DIGRAM FOR HEAVENLY EARTH;DIGRAM FOR HUMAN EARTH
DIGRAM FOR EARTHLY HEAVEN;DIGRAM FOR EARTHLY HUMAN;DIGRAM FOR EARTH;TETRAGRAM FOR CENTRE
TETRAGRAM FOR FULL CIRCLE;TETRAGRAM FOR MIRED;TETRAGRAM FOR BARRIER;TETRAGRAM FOR KEEPING SMALL
TETRAGRAM FOR CONTRARIETY;TETRAGRAM FOR ASCENT;TETRAGRAM FOR OPPOSITION
TETRAGRAM FOR BRANCHING OUT;TETRAGRAM FOR DEFECTIVENESS OR DISTORTION;TETRAGRAM FOR DIVERGENCE
TETRAGRAM FOR YOUTHFULNESS;TETRAGRAM FOR INCREASE;TETRAGRAM FOR PENETRATION;TETRAGRAM FOR REACH
TETRAGRAM FOR CONTACT;TETRAGRAM FOR HOLDING BACK;TETRAGRAM FOR WAITING;TETRAGRAM FOR FOLLOWING
TETRAGRAM FOR ADVANCE;TETRAGRAM FOR RELEASE;TETRAGRAM FOR RESISTANCE;TETRAGRAM FOR EASE
TETRAGRAM FOR JOY;TETRAGRAM FOR CONTENTION;TETRAGRAM FOR ENDEAVOUR;TETRAGRAM FOR DUTIES
TETRAGRAM FOR CHANGE;TETRAGRAM FOR DECISIVENESS;TETRAGRAM FOR BOLD RESOLUTION
TETRAGRAM FOR PACKING;TETRAGRAM FOR LEGION;TETRAGRAM FOR CLOSENESS;TETRAGRAM FOR KINSHIP
TETRAGRAM FOR GATHERING;TETRAGRAM FOR STRENGTH;TETRAGRAM FOR PURITY;TETRAGRAM FOR FULLNESS
TETRAGRAM FOR RESIDENCE;TETRAGRAM FOR LAW OR MODEL;TETRAGRAM FOR RESPONSE
TETRAGRAM FOR GOING TO MEET;TETRAGRAM FOR ENCOUNTERS;TETRAGRAM FOR STOVE;TETRAGRAM FOR GREATNESS
TETRAGRAM FOR ENLARGEMENT;TETRAGRAM FOR PATTERN;TETRAGRAM FOR RITUAL;TETRAGRAM FOR FLIGHT
TETRAGRAM FOR VASTNESS OR WASTING;TETRAGRAM FOR CONSTANCY;TETRAGRAM FOR MEASURE
TETRAGRAM FOR ETERNITY;TETRAGRAM FOR UNITY;TETRAGRAM FOR DIMINISHMENT;TETRAGRAM FOR CLOSED MOUTH
TETRAGRAM FOR GUARDEDNESS;TETRAGRAM FOR GATHERING IN;TETRAGRAM FOR MASSING
TETRAGRAM FOR ACCUMULATION;TETRAGRAM FOR EMBELLISHMENT;TETRAGRAM FOR DOUBT;TETRAGRAM FOR WATCH
TETRAGRAM FOR SINKING;TETRAGRAM FOR INNER;TETRAGRAM FOR DEPARTURE;TETRAGRAM FOR DARKENING
TETRAGRAM FOR DIMMING;TETRAGRAM FOR EXHAUSTION;TETRAGRAM FOR SEVERANCE;TETRAGRAM FOR STOPPAGE
TETRAGRAM FOR HARDNESS;TETRAGRAM FOR COMPLETION;TETRAGRAM FOR CLOSURE;TETRAGRAM FOR FAILURE
TETRAGRAM FOR AGGRAVATION;TETRAGRAM FOR COMPLIANCE;TETRAGRAM FOR ON THE VERGE
TETRAGRAM FOR DIFFICULTIES;TETRAGRAM FOR LABOURING;TETRAGRAM FOR FOSTERING"),
  (0x1d360, "COUNTING ROD UNIT DIGIT ONE;COUNTING ROD UNIT DIGIT TWO
COUNTING ROD UNIT DIGIT THREE;COUNTING ROD UNIT DIGIT FOUR;COUNTING ROD UNIT DIGIT FIVE
COUNTING ROD UNIT DIGIT SIX;COUNTING ROD UNIT DIGIT SEVEN;COUNTING ROD UNIT DIGIT EIGHT
COUNTING ROD UNIT DIGIT NINE;COUNTING ROD TENS DIGIT ONE;COUNTING ROD TENS DIGIT TWO
COUNTING ROD TENS DIGIT THREE;COUNTING ROD TENS DIGIT FOUR;COUNTING ROD TENS DIGIT FIVE
COUNTING ROD TENS DIGIT SIX;COUNTING ROD TENS DIGIT SEVEN;COUNTING ROD TENS DIGIT EIGHT
COUNTING ROD TENS DIGIT NINE;IDEOGRAPHIC TALLY MARK ONE;IDEOGRAPHIC TALLY MARK TWO
IDEOGRAPHIC TALLY MARK THREE;IDEOGRAPHIC TALLY MARK FOUR;IDEOGRAPHIC TALLY MARK FIVE
TALLY MARK ONE;TALLY MARK FIVE"),
  (0x1d400, "MATHEMATICAL BOLD CAPITAL A;MATHEMATICAL BOLD CAPITAL B;MATHEMATICAL BOLD CAPITAL C
MATHEMATICAL BOLD CAPITAL D;MATHEMATICAL BOLD CAPITAL E;MATHEMATICAL BOLD CAPITAL F
MATHEMATICAL BOLD CAPITAL G;MATHEMATICAL BOLD CAPITAL H;MATHEMATICAL BOLD CAPITAL I
MATHEMATICAL BOLD CAPITAL J;MATHEMATICAL BOLD CAPITAL K;MATHEMATICAL BOLD CAPITAL L
MATHEMATICAL BOLD CAPITAL M;MATHEMATICAL BOLD CAPITAL N;MATHEMATICAL BOLD CAPITAL O
MATHEMATICAL BOLD CAPITAL P;MATHEMATICAL BOLD CAPITAL Q;MATHEMATICAL BOLD CAPITAL R
MATHEMATICAL BOLD CAPITAL S;MATHEMATICAL BOLD CAPITAL T;MATHEMATICAL BOLD CAPITAL U
MATHEMATICAL BOLD CAPITAL V;MATHEMATICAL BOLD CAPITAL W;MATHEMATICAL BOLD CAPITAL X
MATHEMATICAL BOLD CAPITAL Y;MATHEMATICAL BOLD CAPITAL Z;MATHEMATICAL BOLD SMALL A
MATHEMATICAL BOLD SMALL B;MATHEMATICAL BOLD SMALL C;MATHEMATICAL BOLD SMALL D
MATHEMATICAL BOLD SMALL E;MATHEMATICAL BOLD SMALL F;MATHEMATICAL BOLD SMALL G
MATHEMATICAL BOLD SMALL H;MATHEMATICAL BOLD SMALL I;MATHEMATICAL BOLD SMALL J
MATHEMATICAL BOLD SMALL K;MATHEMATICAL BOLD SMALL L;MATHEMATICAL BOLD SMALL M
MATHEMATICAL BOLD SMALL N;MATHEMATICAL BOLD SMALL O;MATHEMATICAL BOLD SMALL P
MATHEMATICAL BOLD SMALL Q;MATHEMATICAL BOLD SMALL R;MATHEMATICAL BOLD SMALL S
MATHEMATICAL BOLD SMALL T;MATHEMATICAL BOLD SMALL U;MATHEMATICAL BOLD SMALL V
MATHEMATICAL BOLD SMALL W;MATHEMATICAL BOLD SMALL X;MATHEMATICAL BOLD SMALL Y
MATHEMATICAL BOLD SMALL Z;MATHEMATICAL ITALIC CAPITAL A;MATHEMATICAL ITALIC CAPITAL B
MATHEMATICAL ITALIC CAPITAL C;MATHEMATICAL ITALIC CAPITAL D;MATHEMATICAL ITALIC CAPITAL E
MATHEMATICAL ITALIC CAPITAL F;MATHEMATICAL ITALIC CAPITAL G;MATHEMATICAL ITALIC CAPITAL H
MATHEMATICAL ITALIC CAPITAL I;MATHEMATICAL ITALIC CAPITAL J;MATHEMATICAL ITALIC CAPITAL K
MATHEMATICAL ITALIC CAPITAL L;MATHEMATICAL ITALIC CAPITAL M;MATHEMATICAL ITALIC CAPITAL N
MATHEMATICAL ITALIC CAPITAL O;MATHEMATICAL ITALIC CAPITAL P;MATHEMATICAL ITALIC CAPITAL Q
MATHEMATICAL ITALIC CAPITAL R;MATHEMATICAL ITALIC CAPITAL S;MATHEMATICAL ITALIC CAPITAL T
MATHEMATICAL ITALIC CAPITAL U;MATHEMATICAL ITALIC CAPITAL V;MATHEMATICAL ITALIC CAPITAL W
MATHEMATICAL ITALIC CAPITAL X;MATHEMATICAL ITALIC CAPITAL Y;MATHEMATICAL ITALIC CAPITAL Z
MATHEMATICAL ITALIC SMALL A;MATHEMATICAL ITALIC SMALL B;MATHEMATICAL ITALIC SMALL C
MATHEMATICAL ITALIC SMALL D;MATHEMATICAL ITALIC SMALL E;MATHEMATICAL ITALIC SMALL F
MATHEMATICAL ITALIC SMALL G"),
  (0x1d456, "MATHEMATICAL ITALIC SMALL I;MATHEMATICAL ITALIC SMALL J;MATHEMATICAL ITALIC SMALL K
MATHEMATICAL ITALIC SMALL L;MATHEMATICAL ITALIC SMALL M;MATHEMATICAL ITALIC SMALL N
MATHEMATICAL ITALIC SMALL O;MATHEMATICAL ITALIC SMALL P;MATHEMATICAL ITALIC SMALL Q
MATHEMATICAL ITALIC SMALL R;MATHEMATICAL ITALIC SMALL S;MATHEMATICAL ITALIC SMALL T
MATHEMATICAL ITALIC SMALL U;MATHEMATICAL ITALIC SMALL V;MATHEMATICAL ITALIC SMALL W
MATHEMATICAL ITALIC SMALL X;MATHEMATICAL ITALIC SMALL Y;MATHEMATICAL ITALIC SMALL Z
MATHEMATICAL BOLD ITALIC CAPITAL A;MATHEMATICAL BOLD ITALIC CAPITAL B
MATHEMATICAL BOLD ITALIC CAPITAL C;MATHEMATICAL BOLD ITALIC CAPITAL D
MATHEMATICAL BOLD ITALIC CAPITAL E;MATHEMATICAL BOLD ITALIC CAPITAL F
MATHEMATICAL BOLD ITALIC CAPITAL G;MATHEMATICAL BOLD ITALIC CAPITAL H
MATHEMATICAL BOLD ITALIC CAPITAL I;MATHEMATICAL BOLD ITALIC CAPITAL J
MATHEMATICAL BOLD ITALIC CAPITAL K;MATHEMATICAL BOLD ITALIC CAPITAL L
MATHEMATICAL BOLD ITALIC CAPITAL M;MATHEMATICAL BOLD ITALIC CAPITAL N
MATHEMATICAL BOLD ITALIC CAPITAL O;MATHEMATICAL BOLD ITALIC CAPITAL P
MATHEMATICAL BOLD ITALIC CAPITAL Q;MATHEMATICAL BOLD ITALIC CAPITAL R
MATHEMATICAL BOLD ITALIC CAPITAL S;MATHEMATICAL BOLD ITALIC CAPITAL T
MATHEMATICAL BOLD ITALIC CAPITAL U;MATHEMATICAL BOLD ITALIC CAPITAL V
MATHEMATICAL BOLD ITALIC CAPITAL W;MATHEMATICAL BOLD ITALIC CAPITAL X
MATHEMATICAL BOLD ITALIC CAPITAL Y;MATHEMATICAL BOLD ITALIC CAPITAL Z
MATHEMATICAL BOLD ITALIC SMALL A;MATHEMATICAL BOLD ITALIC SMALL B
MATHEMATICAL BOLD ITALIC SMALL C;MATHEMATICAL BOLD ITALIC SMALL D
MATHEMATICAL BOLD ITALIC SMALL E;MATHEMATICAL BOLD ITALIC SMALL F
MATHEMATICAL BOLD ITALIC SMALL G;MATHEMATICAL BOLD ITALIC SMALL H
MATHEMATICAL BOLD ITALIC SMALL I;MATHEMATICAL BOLD ITALIC SMALL J
MATHEMATICAL BOLD ITALIC SMALL K;MATHEMATICAL BOLD ITALIC SMALL L
MATHEMATICAL BOLD ITALIC SMALL M;MATHEMATICAL BOLD ITALIC SMALL N
MATHEMATICAL BOLD ITALIC SMALL O;MATHEMATICAL BOLD ITALIC SMALL P
MATHEMATICAL BOLD ITALIC SMALL Q;MATHEMATICAL BOLD ITALIC SMALL R
MATHEMATICAL BOLD ITALIC SMALL S;MATHEMATICAL BOLD ITALIC SMALL T
MATHEMATICAL BOLD ITALIC SMALL U;MATHEMATICAL BOLD ITALIC SMALL V
MATHEMATICAL BOLD ITALIC SMALL W;MATHEMATICAL BOLD ITALIC SMALL X
MATHEMATICAL BOLD ITALIC SMALL Y;MATHEMATICAL BOLD ITALIC SMALL Z;MATHEMATICAL SCRIPT CAPITAL A"),
  (0x1d49e, "MATHEMATICAL SCRIPT CAPITAL C;MATHEMATICAL SCRIPT CAPITAL D"),
  (0x1d4a2, "MATHEMATICAL SCRIPT CAPITAL G"),
  (0x1d4a5, "MATHEMATICAL SCRIPT CAPITAL J;MATHEMATICAL SCRIPT CAPITAL K"),
  (0x1d4a9, "MATHEMATICAL SCRIPT CAPITAL N;MATHEMATICAL SCRIPT CAPITAL O
MATHEMATICAL SCRIPT CAPITAL P;MATHEMATICAL SCRIPT CAPITAL Q"),
  (0x1d4ae, "MATHEMATICAL SCRIPT CAPITAL S;MATHEMATICAL SCRIPT CAPITAL T
MATHEMATICAL SCRIPT CAPITAL U;MATHEMATICAL SCRIPT CAPITAL V;MATHEMATICAL SCRIPT CAPITAL W
MATHEMATICAL SCRIPT CAPITAL X;MATHEMATICAL SCRIPT CAPITAL Y;MATHEMATICAL SCRIPT CAPITAL Z
MATHEMATICAL SCRIPT SMALL A;MATHEMATICAL SCRIPT SMALL B;MATHEMATICAL SCRIPT SMALL C
MATHEMATICAL SCRIPT SMALL D"),
  (0x1d4bb, "MATHEMATICAL SCRIPT SMALL F"),
  (0x1d4bd, "MATHEMATICAL SCRIPT SMALL H;MATHEMATICAL SCRIPT SMALL I;MATHEMATICAL SCRIPT SMALL J
MATHEMATICAL SCRIPT SMALL K;MATHEMATICAL SCRIPT SMALL L;MATHEMATICAL SCRIPT SMALL M
MATHEMATICAL SCRIPT SMALL N"),
  (0x1d4c5, "MATHEMATICAL SCRIPT SMALL P;MATHEMATICAL SCRIPT SMALL Q;MATHEMATICAL SCRIPT SMALL R
MATHEMATICAL SCRIPT SMALL S;MATHEMATICAL SCRIPT SMALL T;MATHEMATICAL SCRIPT SMALL U
MATHEMATICAL SCRIPT SMALL V;MATHEMATICAL SCRIPT SMALL W;MATHEMATICAL SCRIPT SMALL X
MATHEMATICAL SCRIPT SMALL Y;MATHEMATICAL SCRIPT SMALL Z;MATHEMATICAL BOLD SCRIPT CAPITAL A
MATHEMATICAL BOLD SCRIPT CAPITAL B;MATHEMATICAL BOLD SCRIPT CAPITAL C
MATHEMATICAL BOLD SCRIPT CAPITAL D;MATHEMATICAL BOLD SCRIPT CAPITAL E
MATHEMATICAL BOLD SCRIPT CAPITAL F;MATHEMATICAL BOLD SCRIPT CAPITAL G
MATHEMATICAL BOLD SCRIPT CAPITAL H;MATHEMATICAL BOLD SCRIPT CAPITAL I
MATHEMATICAL BOLD SCRIPT CAPITAL J;MATHEMATICAL BOLD SCRIPT CAPITAL K
MATHEMATICAL BOLD SCRIPT CAPITAL L;MATHEMATICAL BOLD SCRIPT CAPITAL M
MATHEMATICAL BOLD SCRIPT CAPITAL N;MATHEMATICAL BOLD SCRIPT CAPITAL O
MATHEMATICAL BOLD SCRIPT CAPITAL P;MATHEMATICAL BOLD SCRIPT CAPITAL Q
MATHEMATICAL BOLD SCRIPT CAPITAL R;MATHEMATICAL BOLD SCRIPT CAPITAL S
MATHEMATICAL BOLD SCRIPT CAPITAL T;MATHEMATICAL BOLD SCRIPT CAPITAL U
MATHEMATICAL BOLD SCRIPT CAPITAL V;MATHEMATICAL BOLD SCRIPT CAPITAL W
MATHEMATICAL BOLD SCRIPT CAPITAL X;MATHEMATICAL BOLD SCRIPT CAPITAL Y
MATHEMATICAL BOLD SCRIPT CAPITAL Z;MATHEMATICAL BOLD SCRIPT SMALL A
MATHEMATICAL BOLD SCRIPT SMALL B;MATHEMATICAL BOLD SCRIPT SMALL C
MATHEMATICAL BOLD SCRIPT SMALL D;MATHEMATICAL BOLD SCRIPT SMALL E
MATHEMATICAL BOLD SCRIPT SMALL F;MATHEMATICAL BOLD SCRIPT SMALL G
MATHEMATICAL BOLD SCRIPT SMALL H;MATHEMATICAL BOLD SCRIPT SMALL I
MATHEMATICAL BOLD SCRIPT SMALL J;MATHEMATICAL BOLD SCRIPT SMALL K
MATHEMATICAL BOLD SCRIPT SMALL L;MATHEMATICAL BOLD SCRIPT SMALL M
MATHEMATICAL BOLD SCRIPT SMALL N;MATHEMATICAL BOLD SCRIPT SMALL O
MATHEMATICAL BOLD SCRIPT SMALL P;MATHEMATICAL BOLD SCRIPT SMALL Q
MATHEMATICAL BOLD SCRIPT SMALL R;MATHEMATICAL BOLD SCRIPT SMALL S
MATHEMATICAL BOLD SCRIPT SMALL T;MATHEMATICAL BOLD SCRIPT SMALL U
MATHEMATICAL BOLD SCRIPT SMALL V;MATHEMATICAL BOLD SCRIPT SMALL W
MATHEMATICAL BOLD SCRIPT SMALL X;MATHEMATICAL BOLD SCRIPT SMALL Y
MATHEMATICAL BOLD SCRIPT SMALL Z;MATHEMATICAL FRAKTUR CAPITAL A;MATHEMATICAL FRAKTUR CAPITAL B"),
  (0x1d507, "MATHEMATICAL FRAKTUR CAPITAL D;MATHEMATICAL FRAKTUR CAPITAL E
MATHEMATICAL FRAKTUR CAPITAL F;MATHEMATICAL FRAKTUR CAPITAL G"),
  (0x1d50d, "MATHEMATICAL FRAKTUR CAPITAL J;MATHEMATICAL FRAKTUR CAPITAL K
MATHEMATICAL FRAKTUR CAPITAL L;MATHEMATICAL FRAKTUR CAPITAL M;MATHEMATICAL FRAKTUR CAPITAL N
MATHEMATICAL FRAKTUR CAPITAL O;MATHEMATICAL FRAKTUR CAPITAL P;MATHEMATICAL FRAKTUR CAPITAL Q"),
  (0x1d516, "MATHEMATICAL FRAKTUR CAPITAL S;MATHEMATICAL FRAKTUR CAPITAL T
MATHEMATICAL FRAKTUR CAPITAL U;MATHEMATICAL FRAKTUR CAPITAL V;MATHEMATICAL FRAKTUR CAPITAL W
MATHEMATICAL FRAKTUR CAPITAL X;MATHEMATICAL FRAKTUR CAPITAL Y"),
  (0x1d51e, "MATHEMATICAL FRAKTUR SMALL A;MATHEMATICAL FRAKTUR SMALL B
MATHEMATICAL FRAKTUR SMALL C;MATHEMATICAL FRAKTUR SMALL D;MATHEMATICAL FRAKTUR SMALL E
MATHEMATICAL FRAKTUR SMALL F;MATHEMATICAL FRAKTUR SMALL G;MATHEMATICAL FRAKTUR SMALL H
MATHEMATICAL FRAKTUR SMALL I;MATHEMATICAL FRAKTUR SMALL J;MATHEMATICAL FRAKTUR SMALL K
MATHEMATICAL FRAKTUR SMALL L;MATHEMATICAL FRAKTUR SMALL M;MATHEMATICAL FRAKTUR SMALL N
MATHEMATICAL FRAKTUR SMALL O;MATHEMATICAL FRAKTUR SMALL P;MATHEMATICAL FRAKTUR SMALL Q
MATHEMATICAL FRAKTUR SMALL R;MATHEMATICAL FRAKTUR SMALL S;MATHEMATICAL FRAKTUR SMALL T
MATHEMATICAL FRAKTUR SMALL U;MATHEMATICAL FRAKTUR SMALL V;MATHEMATICAL FRAKTUR SMALL W
MATHEMATICAL FRAKTUR SMALL X;MATHEMATICAL FRAKTUR SMALL Y;MATHEMATICAL FRAKTUR SMALL Z
MATHEMATICAL DOUBLE-STRUCK CAPITAL A;MATHEMATICAL DOUBLE-STRUCK CAPITAL B"),
  (0x1d53b, "MATHEMATICAL DOUBLE-STRUCK CAPITAL D;MATHEMATICAL DOUBLE-STRUCK CAPITAL E
MATHEMATICAL DOUBLE-STRUCK CAPITAL F;MATHEMATICAL DOUBLE-STRUCK CAPITAL G"),
  (0x1d540, "MATHEMATICAL DOUBLE-STRUCK CAPITAL I;MATHEMATICAL DOUBLE-STRUCK CAPITAL J
MATHEMATICAL DOUBLE-STRUCK CAPITAL K;MATHEMATICAL DOUBLE-STRUCK CAPITAL L
MATHEMATICAL DOUBLE-STRUCK CAPITAL M"),
  (0x1d546, "MATHEMATICAL DOUBLE-STRUCK CAPITAL O"),
  (0x1d54a, "MATHEMATICAL DOUBLE-STRUCK CAPITAL S;MATHEMATICAL DOUBLE-STRUCK CAPITAL T
MATHEMATICAL DOUBLE-STRUCK CAPITAL U;MATHEMATICAL DOUBLE-STRUCK CAPITAL V
MATHEMATICAL DOUBLE-STRUCK CAPITAL W;MATHEMATICAL DOUBLE-STRUCK CAPITAL X
MATHEMATICAL DOUBLE-STRUCK CAPITAL Y"),
  (0x1d552, "MATHEMATICAL DOUBLE-STRUCK SMALL A;MATHEMATICAL DOUBLE-STRUCK SMALL B
MATHEMATICAL DOUBLE-STRUCK SMALL C;MATHEMATICAL DOUBLE-STRUCK SMALL D
MATHEMATICAL DOUBLE-STRUCK SMALL E;MATHEMATICAL DOUBLE-STRUCK SMALL F
MATHEMATICAL DOUBLE-STRUCK SMALL G;MATHEMATICAL DOUBLE-STRUCK SMALL H
MATHEMATICAL DOUBLE-STRUCK SMALL I;MATHEMATICAL DOUBLE-STRUCK SMALL J
MATHEMATICAL DOUBLE-STRUCK SMALL K;MATHEMATICAL DOUBLE-STRUCK SMALL L
MATHEMATICAL DOUBLE-STRUCK SMALL M;MATHEMATICAL DOUBLE-STRUCK SMALL N
MATHEMATICAL DOUBLE-STRUCK SMALL O;MATHEMATICAL DOUBLE-STRUCK SMALL P
MATHEMATICAL DOUBLE-STRUCK SMALL Q;MATHEMATICAL DOUBLE-STRUCK SMALL R
MATHEMATICAL DOUBLE-STRUCK SMALL S;MATHEMATICAL DOUBLE-STRUCK SMALL T
MATHEMATICAL DOUBLE-STRUCK SMALL U;MATHEMATICAL DOUBLE-STRUCK SMALL V
MATHEMATICAL DOUBLE-STRUCK SMALL W;MATHEMATICAL DOUBLE-STRUCK SMALL X
MATHEMATICAL DOUBLE-STRUCK SMALL Y;MATHEMATICAL DOUBLE-STRUCK SMALL Z
MATHEMATICAL BOLD FRAKTUR CAPITAL A;MATHEMATICAL BOLD FRAKTUR CAPITAL B
MATHEMATICAL BOLD FRAKTUR CAPITAL C;MATHEMATICAL BOLD FRAKTUR CAPITAL D
MATHEMATICAL BOLD FRAKTUR CAPITAL E;MATHEMATICAL BOLD FRAKTUR CAPITAL F
MATHEMATICAL BOLD FRAKTUR CAPITAL G;MATHEMATICAL BOLD FRAKTUR CAPITAL H
MATHEMATICAL BOLD FRAKTUR CAPITAL I;MATHEMATICAL BOLD FRAKTUR CAPITAL J
MATHEMATICAL BOLD FRAKTUR CAPITAL K;MATHEMATICAL BOLD FRAKTUR CAPITAL L
MATHEMATICAL BOLD FRAKTUR CAPITAL M;MATHEMATICAL BOLD FRAKTUR CAPITAL N
MATHEMATICAL BOLD FRAKTUR CAPITAL O;MATHEMATICAL BOLD FRAKTUR CAPITAL P
MATHEMATICAL BOLD FRAKTUR CAPITAL Q;MATHEMATICAL BOLD FRAKTUR CAPITAL R
MATHEMATICAL BOLD FRAKTUR CAPITAL S;MATHEMATICAL BOLD FRAKTUR CAPITAL T
MATHEMATICAL BOLD FRAKTUR CAPITAL U;MATHEMATICAL BOLD FRAKTUR CAPITAL V
MATHEMATICAL BOLD FRAKTUR CAPITAL W;MATHEMATICAL BOLD FRAKTUR CAPITAL X
MATHEMATICAL BOLD FRAKTUR CAPITAL Y;MATHEMATICAL BOLD FRAKTUR CAPITAL Z
MATHEMATICAL BOLD FRAKTUR SMALL A;MATHEMATICAL BOLD FRAKTUR SMALL B
MATHEMATICAL BOLD FRAKTUR SMALL C;MATHEMATICAL BOLD FRAKTUR SMALL D
MATHEMATICAL BOLD FRAKTUR SMALL E;MATHEMATICAL BOLD FRAKTUR SMALL F
MATHEMATICAL BOLD FRAKTUR SMALL G;MATHEMATICAL BOLD FRAKTUR SMALL H
MATHEMATICAL BOLD FRAKTUR SMALL I;MATHEMATICAL BOLD FRAKTUR SMALL J
MATHEMATICAL BOLD FRAKTUR SMALL K;MATHEMATICAL BOLD FRAKTUR SMALL L
MATHEMATICAL BOLD FRAKTUR SMALL M;MATHEMATICAL BOLD FRAKTUR SMALL N
MATHEMATICAL BOLD FRAKTUR SMALL O;MATHEMATICAL BOLD FRAKTUR SMALL P
MATHEMATICAL BOLD FRAKTUR SMALL Q;MATHEMATICAL BOLD FRAKTUR SMALL R
MATHEMATICAL BOLD FRAKTUR SMALL S;MATHEMATICAL BOLD FRAKTUR SMALL T
MATHEMATICAL BOLD FRAKTUR SMALL U;MATHEMATICAL BOLD FRAKTUR SMALL V
MATHEMATICAL BOLD FRAKTUR SMALL W;MATHEMATICAL BOLD FRAKTUR SMALL X
MATHEMATICAL BOLD FRAKTUR SMALL Y;MATHEMATICAL BOLD FRAKTUR SMALL Z
MATHEMATICAL SANS-SERIF CAPITAL A;MATHEMATICAL SANS-SERIF CAPITAL B
MATHEMATICAL SANS-SERIF CAPITAL C;MATHEMATICAL SANS-SERIF CAPITAL D
MATHEMATICAL SANS-SERIF CAPITAL E;MATHEMATICAL SANS-SERIF CAPITAL F
MATHEMATICAL SANS-SERIF CAPITAL G;MATHEMATICAL SANS-SERIF CAPITAL H
MATHEMATICAL SANS-SERIF CAPITAL I;MATHEMATICAL SANS-SERIF CAPITAL J
MATHEMATICAL SANS-SERIF CAPITAL K;MATHEMATICAL SANS-SERIF CAPITAL L
MATHEMATICAL SANS-SERIF CAPITAL M;MATHEMATICAL SANS-SERIF CAPITAL N
MATHEMATICAL SANS-SERIF CAPITAL O;MATHEMATICAL SANS-SERIF CAPITAL P
MATHEMATICAL SANS-SERIF CAPITAL Q;MATHEMATICAL SANS-SERIF CAPITAL R
MATHEMATICAL SANS-SERIF CAPITAL S;MATHEMATICAL SANS-SERIF CAPITAL T
MATHEMATICAL SANS-SERIF CAPITAL U;MATHEMATICAL SANS-SERIF CAPITAL V
MATHEMATICAL SANS-SERIF CAPITAL W;MATHEMATICAL SANS-SERIF CAPITAL X
MATHEMATICAL SANS-SERIF CAPITAL Y;MATHEMATICAL SANS-SERIF CAPITAL Z
MATHEMATICAL SANS-SERIF SMALL A;MATHEMATICAL SANS-SERIF SMALL B;MATHEMATICAL SANS-SERIF SMALL C
MATHEMATICAL SANS-SERIF SMALL D;MATHEMATICAL SANS-SERIF SMALL E;MATHEMATICAL SANS-SERIF SMALL F
MATHEMATICAL SANS-SERIF SMALL G;MATHEMATICAL SANS-SERIF SMALL H;MATHEMATICAL SANS-SERIF SMALL I
MATHEMATICAL SANS-SERIF SMALL J;MATHEMATICAL SANS-SERIF SMALL K;MATHEMATICAL SANS-SERIF SMALL L
MATHEMATICAL SANS-SERIF SMALL M;MATHEMATICAL SANS-SERIF SMALL N;MATHEMATICAL SANS-SERIF SMALL O
MATHEMATICAL SANS-SERIF SMALL P;MATHEMATICAL SANS-SERIF SMALL Q;MATHEMATICAL SANS-SERIF SMALL R
MATHEMATICAL SANS-SERIF SMALL S;MATHEMATICAL SANS-SERIF SMALL T;MATHEMATICAL SANS-SERIF SMALL U
MATHEMATICAL SANS-SERIF SMALL V;MATHEMATICAL SANS-SERIF SMALL W;MATHEMATICAL SANS-SERIF SMALL X
MATHEMATICAL SANS-SERIF SMALL Y;MATHEMATICAL SANS-SERIF SMALL Z
MATHEMATICAL SANS-SERIF BOLD CAPITAL A;MATHEMATICAL SANS-SERIF BOLD CAPITAL B
MATHEMATICAL SANS-SERIF BOLD CAPITAL C;MATHEMATICAL SANS-SERIF BOLD CAPITAL D
MATHEMATICAL SANS-SERIF BOLD CAPITAL E;MATHEMATICAL SANS-SERIF BOLD CAPITAL F
MATHEMATICAL SANS-SERIF BOLD CAPITAL G;MATHEMATICAL SANS-SERIF BOLD CAPITAL H
MATHEMATICAL SANS-SERIF BOLD CAPITAL I;MATHEMATICAL SANS-SERIF BOLD CAPITAL J
MATHEMATICAL SANS-SERIF BOLD CAPITAL K;MATHEMATICAL SANS-SERIF BOLD CAPITAL L
MATHEMATICAL SANS-SERIF BOLD CAPITAL M;MATHEMATICAL SANS-SERIF BOLD CAPITAL N
MATHEMATICAL SANS-SERIF BOLD CAPITAL O;MATHEMATICAL SANS-SERIF BOLD CAPITAL P
MATHEMATICAL SANS-SERIF BOLD CAPITAL Q;MATHEMATICAL SANS-SERIF BOLD CAPITAL R
MATHEMATICAL SANS-SERIF BOLD CAPITAL S;MATHEMATICAL SANS-SERIF BOLD CAPITAL T
MATHEMATICAL SANS-SERIF BOLD CAPITAL U;MATHEMATICAL SANS-SERIF BOLD CAPITAL V
MATHEMATICAL SANS-SERIF BOLD CAPITAL W;MATHEMATICAL SANS-SERIF BOLD CAPITAL X
MATHEMATICAL SANS-SERIF BOLD CAPITAL Y;MATHEMATICAL SANS-SERIF BOLD CAPITAL Z
MATHEMATICAL SANS-SERIF BOLD SMALL A;MATHEMATICAL SANS-SERIF BOLD SMALL B
MATHEMATICAL SANS-SERIF BOLD SMALL C;MATHEMATICAL SANS-SERIF BOLD SMALL D
MATHEMATICAL SANS-SERIF BOLD SMALL E;MATHEMATICAL SANS-SERIF BOLD SMALL F
MATHEMATICAL SANS-SERIF BOLD SMALL G;MATHEMATICAL SANS-SERIF BOLD SMALL H
MATHEMATICAL SANS-SERIF BOLD SMALL I;MATHEMATICAL SANS-SERIF BOLD SMALL J
MATHEMATICAL SANS-SERIF BOLD SMALL K;MATHEMATICAL SANS-SERIF BOLD SMALL L
MATHEMATICAL SANS-SERIF BOLD SMALL M;MATHEMATICAL SANS-SERIF BOLD SMALL N
MATHEMATICAL SANS-SERIF BOLD SMALL O;MATHEMATICAL SANS-SERIF BOLD SMALL P
MATHEMATICAL SANS-SERIF BOLD SMALL Q;MATHEMATICAL SANS-SERIF BOLD SMALL R
MATHEMATICAL SANS-SERIF BOLD SMALL S;MATHEMATICAL SANS-SERIF BOLD SMALL T
MATHEMATICAL SANS-SERIF BOLD SMALL U;MATHEMATICAL SANS-SERIF BOLD SMALL V
MATHEMATICAL SANS-SERIF BOLD SMALL W;MATHEMATICAL SANS-SERIF BOLD SMALL X
MATHEMATICAL SANS-SERIF BOLD SMALL Y;MATHEMATICAL SANS-SERIF BOLD SMALL Z
MATHEMATICAL SANS-SERIF ITALIC CAPITAL A;MATHEMATICAL SANS-SERIF ITALIC CAPITAL B
MATHEMATICAL SANS-SERIF ITALIC CAPITAL C;MATHEMATICAL SANS-SERIF ITALIC CAPITAL D
MATHEMATICAL SANS-SERIF ITALIC CAPITAL E;MATHEMATICAL SANS-SERIF ITALIC CAPITAL F
MATHEMATICAL SANS-SERIF ITALIC CAPITAL G;MATHEMATICAL SANS-SERIF ITALIC CAPITAL H
MATHEMATICAL SANS-SERIF ITALIC CAPITAL I;MATHEMATICAL SANS-SERIF ITALIC CAPITAL J
MATHEMATICAL SANS-SERIF ITALIC CAPITAL K;MATHEMATICAL SANS-SERIF ITALIC CAPITAL L
MATHEMATICAL SANS-SERIF ITALIC CAPITAL M;MATHEMATICAL SANS-SERIF ITALIC CAPITAL N
MATHEMATICAL SANS-SERIF ITALIC CAPITAL O;MATHEMATICAL SANS-SERIF ITALIC CAPITAL P
MATHEMATICAL SANS-SERIF ITALIC CAPITAL Q;MATHEMATICAL SANS-SERIF ITALIC CAPITAL R
MATHEMATICAL SANS-SERIF ITALIC CAPITAL S;MATHEMATICAL SANS-SERIF ITALIC CAPITAL T
MATHEMATICAL SANS-SERIF ITALIC CAPITAL U;MATHEMATICAL SANS-SERIF ITALIC CAPITAL V
MATHEMATICAL SANS-SERIF ITALIC CAPITAL W;MATHEMATICAL SANS-SERIF ITALIC CAPITAL X
MATHEMATICAL SANS-SERIF ITALIC CAPITAL Y;MATHEMATICAL SANS-SERIF ITALIC CAPITAL Z
MATHEMATICAL SANS-SERIF ITALIC SMALL A;MATHEMATICAL SANS-SERIF ITALIC SMALL B
MATHEMATICAL SANS-SERIF ITALIC SMALL C;MATHEMATICAL SANS-SERIF ITALIC SMALL D
MATHEMATICAL SANS-SERIF ITALIC SMALL E;MATHEMATICAL SANS-SERIF ITALIC SMALL F
MATHEMATICAL SANS-SERIF ITALIC SMALL G;MATHEMATICAL SANS-SERIF ITALIC SMALL H
MATHEMATICAL SANS-SERIF ITALIC SMALL I;MATHEMATICAL SANS-SERIF ITALIC SMALL J
MATHEMATICAL SANS-SERIF ITALIC SMALL K;MATHEMATICAL SANS-SERIF ITALIC SMALL L
MATHEMATICAL SANS-SERIF ITALIC SMALL M;MATHEMATICAL SANS-SERIF ITALIC SMALL N
MATHEMATICAL SANS-SERIF ITALIC SMALL O;MATHEMATICAL SANS-SERIF ITALIC SMALL P
MATHEMATICAL SANS-SERIF ITALIC SMALL Q;MATHEMATICAL SANS-SERIF ITALIC SMALL R
MATHEMATICAL SANS-SERIF ITALIC SMALL S;MATHEMATICAL SANS-SERIF ITALIC SMALL T
MATHEMATICAL SANS-SERIF ITALIC SMALL U;MATHEMATICAL SANS-SERIF ITALIC SMALL V
MATHEMATICAL SANS-SERIF ITALIC SMALL W;MATHEMATICAL SANS-SERIF ITALIC SMALL X
MATHEMATICAL SANS-SERIF ITALIC SMALL Y;MATHEMATICAL SANS-SERIF ITALIC SMALL Z
MATHEMATICAL SANS-SERIF BOLD ITALIC CAPITAL A;MATHEMATICAL SANS-SERIF BOLD ITALIC CAPITAL B
MATHEMATICAL SANS-SERIF BOLD ITALIC CAPITAL C;MATHEMATICAL SANS-SERIF BOLD ITALIC CAPITAL D
MATHEMATICAL SANS-SERIF BOLD ITALIC CAPITAL E;MATHEMATICAL SANS-SERIF BOLD ITALIC CAPITAL F
MATHEMATICAL SANS-SERIF BOLD ITALIC CAPITAL G;MATHEMATICAL SANS-SERIF BOLD ITALIC CAPITAL H
MATHEMATICAL SANS-SERIF BOLD ITALIC CAPITAL I;MATHEMATICAL SANS-SERIF BOLD ITALIC CAPITAL J
MATHEMATICAL SANS-SERIF BOLD ITALIC CAPITAL K;MATHEMATICAL SANS-SERIF BOLD ITALIC CAPITAL L
MATHEMATICAL SANS-SERIF BOLD ITALIC CAPITAL M;MATHEMATICAL SANS-SERIF BOLD ITALIC CAPITAL N
MATHEMATICAL SANS-SERIF BOLD ITALIC CAPITAL O;MATHEMATICAL SANS-SERIF BOLD ITALIC CAPITAL P
MATHEMATICAL SANS-SERIF BOLD ITALIC CAPITAL Q;MATHEMATICAL SANS-SERIF BOLD ITALIC CAPITAL R
MATHEMATICAL SANS-SERIF BOLD ITALIC CAPITAL S;MATHEMATICAL SANS-SERIF BOLD ITALIC CAPITAL T
MATHEMATICAL SANS-SERIF BOLD ITALIC CAPITAL U;MATHEMATICAL SANS-SERIF BOLD ITALIC CAPITAL V
MATHEMATICAL SANS-SERIF BOLD ITALIC CAPITAL W;MATHEMATICAL SANS-SERIF BOLD ITALIC CAPITAL X
MATHEMATICAL SANS-SERIF BOLD ITALIC CAPITAL Y;MATHEMATICAL SANS-SERIF BOLD ITALIC CAPITAL Z
MATHEMATICAL SANS-SERIF BOLD ITALIC SMALL A;MATHEMATICAL SANS-SERIF BOLD ITALIC SMALL B
MATHEMATICAL SANS-SERIF BOLD ITALIC SMALL C;MATHEMATICAL SANS-SERIF BOLD ITALIC SMALL D
MATHEMATICAL SANS-SERIF BOLD ITALIC SMALL E;MATHEMATICAL SANS-SERIF BOLD ITALIC SMALL F
MATHEMATICAL SANS-SERIF BOLD ITALIC SMALL G;MATHEMATICAL SANS-SERIF BOLD ITALIC SMALL H
MATHEMATICAL SANS-SERIF BOLD ITALIC SMALL I;MATHEMATICAL SANS-SERIF BOLD ITALIC SMALL J
MATHEMATICAL SANS-SERIF BOLD ITALIC SMALL K;MATHEMATICAL SANS-SERIF BOLD ITALIC SMALL L
MATHEMATICAL SANS-SERIF BOLD ITALIC SMALL M;MATHEMATICAL SANS-SERIF BOLD ITALIC SMALL N
MATHEMATICAL SANS-SERIF BOLD ITALIC SMALL O;MATHEMATICAL SANS-SERIF BOLD ITALIC SMALL P
MATHEMATICAL SANS-SERIF BOLD ITALIC SMALL Q;MATHEMATICAL SANS-SERIF BOLD ITALIC SMALL R
MATHEMATICAL SANS-SERIF BOLD ITALIC SMALL S;MATHEMATICAL SANS-SERIF BOLD ITALIC SMALL T
MATHEMATICAL SANS-SERIF BOLD ITALIC SMALL U;MATHEMATICAL SANS-SERIF BOLD ITALIC SMALL V
MATHEMATICAL SANS-SERIF BOLD ITALIC SMALL W;MATHEMATICAL SANS-SERIF BOLD ITALIC SMALL X
MATHEMATICAL SANS-SERIF BOLD ITALIC SMALL Y;MATHEMATICAL SANS-SERIF BOLD ITALIC SMALL Z
MATHEMATICAL MONOSPACE CAPITAL A;MATHEMATICAL MONOSPACE CAPITAL B
MATHEMATICAL MONOSPACE CAPITAL C;MATHEMATICAL MONOSPACE CAPITAL D
MATHEMATICAL MONOSPACE CAPITAL E;MATHEMATICAL MONOSPACE CAPITAL F
MATHEMATICAL MONOSPACE CAPITAL G;MATHEMATICAL MONOSPACE CAPITAL H
MATHEMATICAL MONOSPACE CAPITAL I;MATHEMATICAL MONOSPACE CAPITAL J
MATHEMATICAL MONOSPACE CAPITAL K;MATHEMATICAL MONOSPACE CAPITAL L
MATHEMATICAL MONOSPACE CAPITAL M;MATHEMATICAL MONOSPACE CAPITAL N
MATHEMATICAL MONOSPACE CAPITAL O;MATHEMATICAL MONOSPACE CAPITAL P
MATHEMATICAL MONOSPACE CAPITAL Q;MATHEMATICAL MONOSPACE CAPITAL R
MATHEMATICAL MONOSPACE CAPITAL S;MATHEMATICAL MONOSPACE CAPITAL T
MATHEMATICAL MONOSPACE CAPITAL U;MATHEMATICAL MONOSPACE CAPITAL V
MATHEMATICAL MONOSPACE CAPITAL W;MATHEMATICAL MONOSPACE CAPITAL X
MATHEMATICAL MONOSPACE CAPITAL Y;MATHEMATICAL MONOSPACE CAPITAL Z;MATHEMATICAL MONOSPACE SMALL A
MATHEMATICAL MONOSPACE SMALL B;MATHEMATICAL MONOSPACE SMALL C;MATHEMATICAL MONOSPACE SMALL D
MATHEMATICAL MONOSPACE SMALL E;MATHEMATICAL MONOSPACE SMALL F;MATHEMATICAL MONOSPACE SMALL G
MATHEMATICAL MONOSPACE SMALL H;MATHEMATICAL MONOSPACE SMALL I;MATHEMATICAL MONOSPACE SMALL J
MATHEMATICAL MONOSPACE SMALL K;MATHEMATICAL MONOSPACE SMALL L;MATHEMATICAL MONOSPACE SMALL M
MATHEMATICAL MONOSPACE SMALL N;MATHEMATICAL MONOSPACE SMALL O;MATHEMATICAL MONOSPACE SMALL P
MATHEMATICAL MONOSPACE SMALL Q;MATHEMATICAL MONOSPACE SMALL R;MATHEMATICAL MONOSPACE SMALL S
MATHEMATICAL MONOSPACE SMALL T;MATHEMATICAL MONOSPACE SMALL U;MATHEMATICAL MONOSPACE SMALL V
MATHEMATICAL MONOSPACE SMALL W;MATHEMATICAL MONOSPACE SMALL X;MATHEMATICAL MONOSPACE SMALL Y
MATHEMATICAL MONOSPACE SMALL Z;MATHEMATICAL ITALIC SMALL DOTLESS I
MATHEMATICAL ITALIC SMALL DOTLESS J"),
  (0x1d6a8, "MATHEMATICAL BOLD CAPITAL ALPHA;MATHEMATICAL BOLD CAPITAL BETA
MATHEMATICAL BOLD CAPITAL GAMMA;MATHEMATICAL BOLD CAPITAL DELTA;MATHEMATICAL BOLD CAPITAL EPSILON
MATHEMATICAL BOLD CAPITAL ZETA;MATHEMATICAL BOLD CAPITAL ETA;MATHEMATICAL BOLD CAPITAL THETA
MATHEMATICAL BOLD CAPITAL IOTA;MATHEMATICAL BOLD CAPITAL KAPPA;MATHEMATICAL BOLD CAPITAL LAMDA
MATHEMATICAL BOLD CAPITAL MU;MATHEMATICAL BOLD CAPITAL NU;MATHEMATICAL BOLD CAPITAL XI
MATHEMATICAL BOLD CAPITAL OMICRON;MATHEMATICAL BOLD CAPITAL PI;MATHEMATICAL BOLD CAPITAL RHO
MATHEMATICAL BOLD CAPITAL THETA SYMBOL;MATHEMATICAL BOLD CAPITAL SIGMA
MATHEMATICAL BOLD CAPITAL TAU;MATHEMATICAL BOLD CAPITAL UPSILON;MATHEMATICAL BOLD CAPITAL PHI
MATHEMATICAL BOLD CAPITAL CHI;MATHEMATICAL BOLD CAPITAL PSI;MATHEMATICAL BOLD CAPITAL OMEGA
MATHEMATICAL BOLD NABLA;MATHEMATICAL BOLD SMALL ALPHA;MATHEMATICAL BOLD SMALL BETA
MATHEMATICAL BOLD SMALL GAMMA;MATHEMATICAL BOLD SMALL DELTA;MATHEMATICAL BOLD SMALL EPSILON
MATHEMATICAL BOLD SMALL ZETA;MATHEMATICAL BOLD SMALL ETA;MATHEMATICAL BOLD SMALL THETA
MATHEMATICAL BOLD SMALL IOTA;MATHEMATICAL BOLD SMALL KAPPA;MATHEMATICAL BOLD SMALL LAMDA
MATHEMATICAL BOLD SMALL MU;MATHEMATICAL BOLD SMALL NU;MATHEMATICAL BOLD SMALL XI
MATHEMATICAL BOLD SMALL OMICRON;MATHEMATICAL BOLD SMALL PI;MATHEMATICAL BOLD SMALL RHO
MATHEMATICAL BOLD SMALL FINAL SIGMA;MATHEMATICAL BOLD SMALL SIGMA;MATHEMATICAL BOLD SMALL TAU
MATHEMATICAL BOLD SMALL UPSILON;MATHEMATICAL BOLD SMALL PHI;MATHEMATICAL BOLD SMALL CHI
MATHEMATICAL BOLD SMALL PSI;MATHEMATICAL BOLD SMALL OMEGA;MATHEMATICAL BOLD PARTIAL DIFFERENTIAL
MATHEMATICAL BOLD EPSILON SYMBOL;MATHEMATICAL BOLD THETA SYMBOL;MATHEMATICAL BOLD KAPPA SYMBOL
MATHEMATICAL BOLD PHI SYMBOL;MATHEMATICAL BOLD RHO SYMBOL;MATHEMATICAL BOLD PI SYMBOL
MATHEMATICAL ITALIC CAPITAL ALPHA;MATHEMATICAL ITALIC CAPITAL BETA
MATHEMATICAL ITALIC CAPITAL GAMMA;MATHEMATICAL ITALIC CAPITAL DELTA
MATHEMATICAL ITALIC CAPITAL EPSILON;MATHEMATICAL ITALIC CAPITAL ZETA
MATHEMATICAL ITALIC CAPITAL ETA;MATHEMATICAL ITALIC CAPITAL THETA
MATHEMATICAL ITALIC CAPITAL IOTA;MATHEMATICAL ITALIC CAPITAL KAPPA
MATHEMATICAL ITALIC CAPITAL LAMDA;MATHEMATICAL ITALIC CAPITAL MU;MATHEMATICAL ITALIC CAPITAL NU
MATHEMATICAL ITALIC CAPITAL XI;MATHEMATICAL ITALIC CAPITAL OMICRON;MATHEMATICAL ITALIC CAPITAL PI
MATHEMATICAL ITALIC CAPITAL RHO;MATHEMATICAL ITALIC CAPITAL THETA SYMBOL
MATHEMATICAL ITALIC CAPITAL SIGMA;MATHEMATICAL ITALIC CAPITAL TAU
MATHEMATICAL ITALIC CAPITAL UPSILON;MATHEMATICAL ITALIC CAPITAL PHI
MATHEMATICAL ITALIC CAPITAL CHI;MATHEMATICAL ITALIC CAPITAL PSI;MATHEMATICAL ITALIC CAPITAL OMEGA
MATHEMATICAL ITALIC NABLA;MATHEMATICAL ITALIC SMALL ALPHA;MATHEMATICAL ITALIC SMALL BETA
MATHEMATICAL ITALIC SMALL GAMMA;MATHEMATICAL ITALIC SMALL DELTA;MATHEMATICAL ITALIC SMALL EPSILON
MATHEMATICAL ITALIC SMALL ZETA;MATHEMATICAL ITALIC SMALL ETA;MATHEMATICAL ITALIC SMALL THETA
MATHEMATICAL ITALIC SMALL IOTA;MATHEMATICAL ITALIC SMALL KAPPA;MATHEMATICAL ITALIC SMALL LAMDA
MATHEMATICAL ITALIC SMALL MU;MATHEMATICAL ITALIC SMALL NU;MATHEMATICAL ITALIC SMALL XI
MATHEMATICAL ITALIC SMALL OMICRON;MATHEMATICAL ITALIC SMALL PI;MATHEMATICAL ITALIC SMALL RHO
MATHEMATICAL ITALIC SMALL FINAL SIGMA;MATHEMATICAL ITALIC SMALL SIGMA
MATHEMATICAL ITALIC SMALL TAU;MATHEMATICAL ITALIC SMALL UPSILON;MATHEMATICAL ITALIC SMALL PHI
MATHEMATICAL ITALIC SMALL CHI;MATHEMATICAL ITALIC SMALL PSI;MATHEMATICAL ITALIC SMALL OMEGA
MATHEMATICAL ITALIC PARTIAL DIFFERENTIAL;MATHEMATICAL ITALIC EPSILON SYMBOL
MATHEMATICAL ITALIC THETA SYMBOL;MATHEMATICAL ITALIC KAPPA SYMBOL;MATHEMATICAL ITALIC PHI SYMBOL
MATHEMATICAL ITALIC RHO SYMBOL;MATHEMATICAL ITALIC PI SYMBOL
MATHEMATICAL BOLD ITALIC CAPITAL ALPHA;MATHEMATICAL BOLD ITALIC CAPITAL BETA
MATHEMATICAL BOLD ITALIC CAPITAL GAMMA;MATHEMATICAL BOLD ITALIC CAPITAL DELTA
MATHEMATICAL BOLD ITALIC CAPITAL EPSILON;MATHEMATICAL BOLD ITALIC CAPITAL ZETA
MATHEMATICAL BOLD ITALIC CAPITAL ETA;MATHEMATICAL BOLD ITALIC CAPITAL THETA
MATHEMATICAL BOLD ITALIC CAPITAL IOTA;MATHEMATICAL BOLD ITALIC CAPITAL KAPPA
MATHEMATICAL BOLD ITALIC CAPITAL LAMDA;MATHEMATICAL BOLD ITALIC CAPITAL MU
MATHEMATICAL BOLD ITALIC CAPITAL NU;MATHEMATICAL BOLD ITALIC CAPITAL XI
MATHEMATICAL BOLD ITALIC CAPITAL OMICRON;MATHEMATICAL BOLD ITALIC CAPITAL PI
MATHEMATICAL BOLD ITALIC CAPITAL RHO;MATHEMATICAL BOLD ITALIC CAPITAL THETA SYMBOL
MATHEMATICAL BOLD ITALIC CAPITAL SIGMA;MATHEMATICAL BOLD ITALIC CAPITAL TAU
MATHEMATICAL BOLD ITALIC CAPITAL UPSILON;MATHEMATICAL BOLD ITALIC CAPITAL PHI
MATHEMATICAL BOLD ITALIC CAPITAL CHI;MATHEMATICAL BOLD ITALIC CAPITAL PSI
MATHEMATICAL BOLD ITALIC CAPITAL OMEGA;MATHEMATICAL BOLD ITALIC NABLA
MATHEMATICAL BOLD ITALIC SMALL ALPHA;MATHEMATICAL BOLD ITALIC SMALL BETA
MATHEMATICAL BOLD ITALIC SMALL GAMMA;MATHEMATICAL BOLD ITALIC SMALL DELTA
MATHEMATICAL BOLD ITALIC SMALL EPSILON;MATHEMATICAL BOLD ITALIC SMALL ZETA
MATHEMATICAL BOLD ITALIC SMALL ETA;MATHEMATICAL BOLD ITALIC SMALL THETA
MATHEMATICAL BOLD ITALIC SMALL IOTA;MATHEMATICAL BOLD ITALIC SMALL KAPPA
MATHEMATICAL BOLD ITALIC SMALL LAMDA;MATHEMATICAL BOLD ITALIC SMALL MU
MATHEMATICAL BOLD ITALIC SMALL NU;MATHEMATICAL BOLD ITALIC SMALL XI
MATHEMATICAL BOLD ITALIC SMALL OMICRON;MATHEMATICAL BOLD ITALIC SMALL PI
MATHEMATICAL BOLD ITALIC SMALL RHO;MATHEMATICAL BOLD ITALIC SMALL FINAL SIGMA
MATHEMATICAL BOLD ITALIC SMALL SIGMA;MATHEMATICAL BOLD ITALIC SMALL TAU
MATHEMATICAL BOLD ITALIC SMALL UPSILON;MATHEMATICAL BOLD ITALIC SMALL PHI
MATHEMATICAL BOLD ITALIC SMALL CHI;MATHEMATICAL BOLD ITALIC SMALL PSI
MATHEMATICAL BOLD ITALIC SMALL OMEGA;MATHEMATICAL BOLD ITALIC PARTIAL DIFFERENTIAL
MATHEMATICAL BOLD ITALIC EPSILON SYMBOL;MATHEMATICAL BOLD ITALIC THETA SYMBOL
MATHEMATICAL BOLD ITALIC KAPPA SYMBOL;MATHEMATICAL BOLD ITALIC PHI SYMBOL
MATHEMATICAL BOLD ITALIC RHO SYMBOL;MATHEMATICAL BOLD ITALIC PI SYMBOL
MATHEMATICAL SANS-SERIF BOLD CAPITAL ALPHA;MATHEMATICAL SANS-SERIF BOLD CAPITAL BETA
MATHEMATICAL SANS-SERIF BOLD CAPITAL GAMMA;MATHEMATICAL SANS-SERIF BOLD CAPITAL DELTA
MATHEMATICAL SANS-SERIF BOLD CAPITAL EPSILON;MATHEMATICAL SANS-SERIF BOLD CAPITAL ZETA
MATHEMATICAL SANS-SERIF BOLD CAPITAL ETA;MATHEMATICAL SANS-SERIF BOLD CAPITAL THETA
MATHEMATICAL SANS-SERIF BOLD CAPITAL IOTA;MATHEMATICAL SANS-SERIF BOLD CAPITAL KAPPA
MATHEMATICAL SANS-SERIF BOLD CAPITAL LAMDA;MATHEMATICAL SANS-SERIF BOLD CAPITAL MU
MATHEMATICAL SANS-SERIF BOLD CAPITAL NU;MATHEMATICAL SANS-SERIF BOLD CAPITAL XI
MATHEMATICAL SANS-SERIF BOLD CAPITAL OMICRON;MATHEMATICAL SANS-SERIF BOLD CAPITAL PI
MATHEMATICAL SANS-SERIF BOLD CAPITAL RHO;MATHEMATICAL SANS-SERIF BOLD CAPITAL THETA SYMBOL
MATHEMATICAL SANS-SERIF BOLD CAPITAL SIGMA;MATHEMATICAL SANS-SERIF BOLD CAPITAL TAU
MATHEMATICAL SANS-SERIF BOLD CAPITAL UPSILON;MATHEMATICAL SANS-SERIF BOLD CAPITAL PHI
MATHEMATICAL SANS-SERIF BOLD CAPITAL CHI;MATHEMATICAL SANS-SERIF BOLD CAPITAL PSI
MATHEMATICAL SANS-SERIF BOLD CAPITAL OMEGA;MATHEMATICAL SANS-SERIF BOLD NABLA
MATHEMATICAL SANS-SERIF BOLD SMALL ALPHA;MATHEMATICAL SANS-SERIF BOLD SMALL BETA
MATHEMATICAL SANS-SERIF BOLD SMALL GAMMA;MATHEMATICAL SANS-SERIF BOLD SMALL DELTA
MATHEMATICAL SANS-SERIF BOLD SMALL EPSILON;MATHEMATICAL SANS-SERIF BOLD SMALL ZETA
MATHEMATICAL SANS-SERIF BOLD SMALL ETA;MATHEMATICAL SANS-SERIF BOLD SMALL THETA
MATHEMATICAL SANS-SERIF BOLD SMALL IOTA;MATHEMATICAL SANS-SERIF BOLD SMALL KAPPA
MATHEMATICAL SANS-SERIF BOLD SMALL LAMDA;MATHEMATICAL SANS-SERIF BOLD SMALL MU
MATHEMATICAL SANS-SERIF BOLD SMALL NU;MATHEMATICAL SANS-SERIF BOLD SMALL XI
MATHEMATICAL SANS-SERIF BOLD SMALL OMICRON;MATHEMATICAL SANS-SERIF BOLD SMALL PI
MATHEMATICAL SANS-SERIF BOLD SMALL RHO;MATHEMATICAL SANS-SERIF BOLD SMALL FINAL SIGMA
MATHEMATICAL SANS-SERIF BOLD SMALL SIGMA;MATHEMATICAL SANS-SERIF BOLD SMALL TAU
MATHEMATICAL SANS-SERIF BOLD SMALL UPSILON;MATHEMATICAL SANS-SERIF BOLD SMALL PHI
MATHEMATICAL SANS-SERIF BOLD SMALL CHI;MATHEMATICAL SANS-SERIF BOLD SMALL PSI
MATHEMATICAL SANS-SERIF BOLD SMALL OMEGA;MATHEMATICAL SANS-SERIF BOLD PARTIAL DIFFERENTIAL
MATHEMATICAL SANS-SERIF BOLD EPSILON SYMBOL;MATHEMATICAL SANS-SERIF BOLD THETA SYMBOL
MATHEMATICAL SANS-SERIF BOLD KAPPA SYMBOL;MATHEMATICAL SANS-SERIF BOLD PHI SYMBOL
MATHEMATICAL SANS-SERIF BOLD RHO SYMBOL;MATHEMATICAL SANS-SERIF BOLD PI SYMBOL
MATHEMATICAL SANS-SERIF BOLD ITALIC CAPITAL ALPHA
MATHEMATICAL SANS-SERIF BOLD ITALIC CAPITAL BETA
MATHEMATICAL SANS-SERIF BOLD ITALIC CAPITAL GAMMA
MATHEMATICAL SANS-SERIF BOLD ITALIC CAPITAL DELTA
MATHEMATICAL SANS-SERIF BOLD ITALIC CAPITAL EPSILON
MATHEMATICAL SANS-SERIF BOLD ITALIC CAPITAL ZETA;MATHEMATICAL SANS-SERIF BOLD ITALIC CAPITAL ETA
MATHEMATICAL SANS-SERIF BOLD ITALIC CAPITAL THETA
MATHEMATICAL SANS-SERIF BOLD ITALIC CAPITAL IOTA
MATHEMATICAL SANS-SERIF BOLD ITALIC CAPITAL KAPPA
MATHEMATICAL SANS-SERIF BOLD ITALIC CAPITAL LAMDA;MATHEMATICAL SANS-SERIF BOLD ITALIC CAPITAL MU
MATHEMATICAL SANS-SERIF BOLD ITALIC CAPITAL NU;MATHEMATICAL SANS-SERIF BOLD ITALIC CAPITAL XI
MATHEMATICAL SANS-SERIF BOLD ITALIC CAPITAL OMICRON
MATHEMATICAL SANS-SERIF BOLD ITALIC CAPITAL PI;MATHEMATICAL SANS-SERIF BOLD ITALIC CAPITAL RHO
MATHEMATICAL SANS-SERIF BOLD ITALIC CAPITAL THETA SYMBOL
MATHEMATICAL SANS-SERIF BOLD ITALIC CAPITAL SIGMA;MATHEMATICAL SANS-SERIF BOLD ITALIC CAPITAL TAU
MATHEMATICAL SANS-SERIF BOLD ITALIC CAPITAL UPSILON
MATHEMATICAL SANS-SERIF BOLD ITALIC CAPITAL PHI;MATHEMATICAL SANS-SERIF BOLD ITALIC CAPITAL CHI
MATHEMATICAL SANS-SERIF BOLD ITALIC CAPITAL PSI;MATHEMATICAL SANS-SERIF BOLD ITALIC CAPITAL OMEGA
MATHEMATICAL SANS-SERIF BOLD ITALIC NABLA;MATHEMATICAL SANS-SERIF BOLD ITALIC SMALL ALPHA
MATHEMATICAL SANS-SERIF BOLD ITALIC SMALL BETA;MATHEMATICAL SANS-SERIF BOLD ITALIC SMALL GAMMA
MATHEMATICAL SANS-SERIF BOLD ITALIC SMALL DELTA;MATHEMATICAL SANS-SERIF BOLD ITALIC SMALL EPSILON
MATHEMATICAL SANS-SERIF BOLD ITALIC SMALL ZETA;MATHEMATICAL SANS-SERIF BOLD ITALIC SMALL ETA
MATHEMATICAL SANS-SERIF BOLD ITALIC SMALL THETA;MATHEMATICAL SANS-SERIF BOLD ITALIC SMALL IOTA
MATHEMATICAL SANS-SERIF BOLD ITALIC SMALL KAPPA;MATHEMATICAL SANS-SERIF BOLD ITALIC SMALL LAMDA
MATHEMATICAL SANS-SERIF BOLD ITALIC SMALL MU;MATHEMATICAL SANS-SERIF BOLD ITALIC SMALL NU
MATHEMATICAL SANS-SERIF BOLD ITALIC SMALL XI;MATHEMATICAL SANS-SERIF BOLD ITALIC SMALL OMICRON
MATHEMATICAL SANS-SERIF BOLD ITALIC SMALL PI;MATHEMATICAL SANS-SERIF BOLD ITALIC SMALL RHO
MATHEMATICAL SANS-SERIF BOLD ITALIC SMALL FINAL SIGMA
MATHEMATICAL SANS-SERIF BOLD ITALIC SMALL SIGMA;MATHEMATICAL SANS-SERIF BOLD ITALIC SMALL TAU
MATHEMATICAL SANS-SERIF BOLD ITALIC SMALL UPSILON;MATHEMATICAL SANS-SERIF BOLD ITALIC SMALL PHI
MATHEMATICAL SANS-SERIF BOLD ITALIC SMALL CHI;MATHEMATICAL SANS-SERIF BOLD ITALIC SMALL PSI
MATHEMATICAL SANS-SERIF BOLD ITALIC SMALL OMEGA
MATHEMATICAL SANS-SERIF BOLD ITALIC PARTIAL DIFFERENTIAL
MATHEMATICAL SANS-SERIF BOLD ITALIC EPSILON SYMBOL
MATHEMATICAL SANS-SERIF BOLD ITALIC THETA SYMBOL;MATHEMATICAL SANS-SERIF BOLD ITALIC KAPPA SYMBOL
MATHEMATICAL SANS-SERIF BOLD ITALIC PHI SYMBOL;MATHEMATICAL SANS-SERIF BOLD ITALIC RHO SYMBOL
MATHEMATICAL SANS-SERIF BOLD ITALIC PI SYMBOL;MATHEMATICAL BOLD CAPITAL DIGAMMA
MATHEMATICAL BOLD SMALL DIGAMMA")]

end UrlRouting.Text
