/-!
# Names of characters from U+0020 to U+0F97

The names of Unicode 14.  Each entry gives the first of some characters in a row and their
names, one after the other, between semicolons and line ends.
-/

namespace UrlRouting.Text

/-- The names of the characters from U+0020 to U+0F97. -/
def namesFrom0020 : List (Nat × String) := [
  (0x20, "SPACE;EXCLAMATION MARK;QUOTATION MARK;NUMBER SIGN;DOLLAR SIGN;PERCENT SIGN;AMPERSAND
APOSTROPHE;LEFT PARENTHESIS;RIGHT PARENTHESIS;ASTERISK;PLUS SIGN;COMMA;HYPHEN-MINUS;FULL STOP
SOLIDUS;DIGIT ZERO;DIGIT ONE;DIGIT TWO;DIGIT THREE;DIGIT FOUR;DIGIT FIVE;DIGIT SIX;DIGIT SEVEN
DIGIT EIGHT;DIGIT NINE;COLON;SEMICOLON;LESS-THAN SIGN;EQUALS SIGN;GREATER-THAN SIGN;QUESTION MARK
COMMERCIAL AT;LATIN CAPITAL LETTER A;LATIN CAPITAL LETTER B;LATIN CAPITAL LETTER C
LATIN CAPITAL LETTER D;LATIN CAPITAL LETTER E;LATIN CAPITAL LETTER F;LATIN CAPITAL LETTER G
LATIN CAPITAL LETTER H;LATIN CAPITAL LETTER I;LATIN CAPITAL LETTER J;LATIN CAPITAL LETTER K
LATIN CAPITAL LETTER L;LATIN CAPITAL LETTER M;LATIN CAPITAL LETTER N;LATIN CAPITAL LETTER O
LATIN CAPITAL LETTER P;LATIN CAPITAL LETTER Q;LATIN CAPITAL LETTER R;LATIN CAPITAL LETTER S
LATIN CAPITAL LETTER T;LATIN CAPITAL LETTER U;LATIN CAPITAL LETTER V;LATIN CAPITAL LETTER W
LATIN CAPITAL LETTER X;LATIN CAPITAL LETTER Y;LATIN CAPITAL LETTER Z;LEFT SQUARE BRACKET
REVERSE SOLIDUS;RIGHT SQUARE BRACKET;CIRCUMFLEX ACCENT;LOW LINE;GRAVE ACCENT;LATIN SMALL LETTER A
LATIN SMALL LETTER B;LATIN SMALL LETTER C;LATIN SMALL LETTER D;LATIN SMALL LETTER E
LATIN SMALL LETTER F;LATIN SMALL LETTER G;LATIN SMALL LETTER H;LATIN SMALL LETTER I
LATIN SMALL LETTER J;LATIN SMALL LETTER K;LATIN SMALL LETTER L;LATIN SMALL LETTER M
LATIN SMALL LETTER N;LATIN SMALL LETTER O;LATIN SMALL LETTER P;LATIN SMALL LETTER Q
LATIN SMALL LETTER R;LATIN SMALL LETTER S;LATIN SMALL LETTER T;LATIN SMALL LETTER U
LATIN SMALL LETTER V;LATIN SMALL LETTER W;LATIN SMALL LETTER X;LATIN SMALL LETTER Y
LATIN SMALL LETTER Z;LEFT CURLY BRACKET;VERTICAL LINE;RIGHT CURLY BRACKET;TILDE"),
  (0xa0, "NO-BREAK SPACE;INVERTED EXCLAMATION MARK;CENT SIGN;POUND SIGN;CURRENCY SIGN;YEN SIGN
BROKEN BAR;SECTION SIGN;DIAERESIS;COPYRIGHT SIGN;FEMININE ORDINAL INDICATOR
LEFT-POINTING DOUBLE ANGLE QUOTATION MARK;NOT SIGN;SOFT HYPHEN;REGISTERED SIGN;MACRON;DEGREE SIGN
PLUS-MINUS SIGN;SUPERSCRIPT TWO;SUPERSCRIPT THREE;ACUTE ACCENT;MICRO SIGN;PILCROW SIGN;MIDDLE DOT
CEDILLA;SUPERSCRIPT ONE;MASCULINE ORDINAL INDICATOR;RIGHT-POINTING DOUBLE ANGLE QUOTATION MARK
VULGAR FRACTION ONE QUARTER;VULGAR FRACTION ONE HALF;VULGAR FRACTION THREE QUARTERS
INVERTED QUESTION MARK;LATIN CAPITAL LETTER A WITH GRAVE;LATIN CAPITAL LETTER A WITH ACUTE
LATIN CAPITAL LETTER A WITH CIRCUMFLEX;LATIN CAPITAL LETTER A WITH TILDE
LATIN CAPITAL LETTER A WITH DIAERESIS;LATIN CAPITAL LETTER A WITH RING ABOVE
LATIN CAPITAL LETTER AE;LATIN CAPITAL LETTER C WITH CEDILLA;LATIN CAPITAL LETTER E WITH GRAVE
LATIN CAPITAL LETTER E WITH ACUTE;LATIN CAPITAL LETTER E WITH CIRCUMFLEX
LATIN CAPITAL LETTER E WITH DIAERESIS;LATIN CAPITAL LETTER I WITH GRAVE
LATIN CAPITAL LETTER I WITH ACUTE;LATIN CAPITAL LETTER I WITH CIRCUMFLEX
LATIN CAPITAL LETTER I WITH DIAERESIS;LATIN CAPITAL LETTER ETH;LATIN CAPITAL LETTER N WITH TILDE
LATIN CAPITAL LETTER O WITH GRAVE;LATIN CAPITAL LETTER O WITH ACUTE
LATIN CAPITAL LETTER O WITH CIRCUMFLEX;LATIN CAPITAL LETTER O WITH TILDE
LATIN CAPITAL LETTER O WITH DIAERESIS;MULTIPLICATION SIGN;LATIN CAPITAL LETTER O WITH STROKE
LATIN CAPITAL LETTER U WITH GRAVE;LATIN CAPITAL LETTER U WITH ACUTE
LATIN CAPITAL LETTER U WITH CIRCUMFLEX;LATIN CAPITAL LETTER U WITH DIAERESIS
LATIN CAPITAL LETTER Y WITH ACUTE;LATIN CAPITAL LETTER THORN;LATIN SMALL LETTER SHARP S
LATIN SMALL LETTER A WITH GRAVE;LATIN SMALL LETTER A WITH ACUTE
LATIN SMALL LETTER A WITH CIRCUMFLEX;LATIN SMALL LETTER A WITH TILDE
LATIN SMALL LETTER A WITH DIAERESIS;LATIN SMALL LETTER A WITH RING ABOVE;LATIN SMALL LETTER AE
LATIN SMALL LETTER C WITH CEDILLA;LATIN SMALL LETTER E WITH GRAVE;LATIN SMALL LETTER E WITH ACUTE
LATIN SMALL LETTER E WITH CIRCUMFLEX;LATIN SMALL LETTER E WITH DIAERESIS
LATIN SMALL LETTER I WITH GRAVE;LATIN SMALL LETTER I WITH ACUTE
LATIN SMALL LETTER I WITH CIRCUMFLEX;LATIN SMALL LETTER I WITH DIAERESIS;LATIN SMALL LETTER ETH
LATIN SMALL LETTER N WITH TILDE;LATIN SMALL LETTER O WITH GRAVE;LATIN SMALL LETTER O WITH ACUTE
LATIN SMALL LETTER O WITH CIRCUMFLEX;LATIN SMALL LETTER O WITH TILDE
LATIN SMALL LETTER O WITH DIAERESIS;DIVISION SIGN;LATIN SMALL LETTER O WITH STROKE
LATIN SMALL LETTER U WITH GRAVE;LATIN SMALL LETTER U WITH ACUTE
LATIN SMALL LETTER U WITH CIRCUMFLEX;LATIN SMALL LETTER U WITH DIAERESIS
LATIN SMALL LETTER Y WITH ACUTE;LATIN SMALL LETTER THORN;LATIN SMALL LETTER Y WITH DIAERESIS
LATIN CAPITAL LETTER A WITH MACRON;LATIN SMALL LETTER A WITH MACRON
LATIN CAPITAL LETTER A WITH BREVE;LATIN SMALL LETTER A WITH BREVE
LATIN CAPITAL LETTER A WITH OGONEK;LATIN SMALL LETTER A WITH OGONEK
LATIN CAPITAL LETTER C WITH ACUTE;LATIN SMALL LETTER C WITH ACUTE
LATIN CAPITAL LETTER C WITH CIRCUMFLEX;LATIN SMALL LETTER C WITH CIRCUMFLEX
LATIN CAPITAL LETTER C WITH DOT ABOVE;LATIN SMALL LETTER C WITH DOT ABOVE
LATIN CAPITAL LETTER C WITH CARON;LATIN SMALL LETTER C WITH CARON
LATIN CAPITAL LETTER D WITH CARON;LATIN SMALL LETTER D WITH CARON
LATIN CAPITAL LETTER D WITH STROKE;LATIN SMALL LETTER D WITH STROKE
LATIN CAPITAL LETTER E WITH MACRON;LATIN SMALL LETTER E WITH MACRON
LATIN CAPITAL LETTER E WITH BREVE;LATIN SMALL LETTER E WITH BREVE
LATIN CAPITAL LETTER E WITH DOT ABOVE;LATIN SMALL LETTER E WITH DOT ABOVE
LATIN CAPITAL LETTER E WITH OGONEK;LATIN SMALL LETTER E WITH OGONEK
LATIN CAPITAL LETTER E WITH CARON;LATIN SMALL LETTER E WITH CARON
LATIN CAPITAL LETTER G WITH CIRCUMFLEX;LATIN SMALL LETTER G WITH CIRCUMFLEX
LATIN CAPITAL LETTER G WITH BREVE;LATIN SMALL LETTER G WITH BREVE
LATIN CAPITAL LETTER G WITH DOT ABOVE;LATIN SMALL LETTER G WITH DOT ABOVE
LATIN CAPITAL LETTER G WITH CEDILLA;LATIN SMALL LETTER G WITH CEDILLA
LATIN CAPITAL LETTER H WITH CIRCUMFLEX;LATIN SMALL LETTER H WITH CIRCUMFLEX
LATIN CAPITAL LETTER H WITH STROKE;LATIN SMALL LETTER H WITH STROKE
LATIN CAPITAL LETTER I WITH TILDE;LATIN SMALL LETTER I WITH TILDE
LATIN CAPITAL LETTER I WITH MACRON;LATIN SMALL LETTER I WITH MACRON
LATIN CAPITAL LETTER I WITH BREVE;LATIN SMALL LETTER I WITH BREVE
LATIN CAPITAL LETTER I WITH OGONEK;LATIN SMALL LETTER I WITH OGONEK
LATIN CAPITAL LETTER I WITH DOT ABOVE;LATIN SMALL LETTER DOTLESS I;LATIN CAPITAL LIGATURE IJ
LATIN SMALL LIGATURE IJ;LATIN CAPITAL LETTER J WITH CIRCUMFLEX
LATIN SMALL LETTER J WITH CIRCUMFLEX;LATIN CAPITAL LETTER K WITH CEDILLA
LATIN SMALL LETTER K WITH CEDILLA;LATIN SMALL LETTER KRA;LATIN CAPITAL LETTER L WITH ACUTE
LATIN SMALL LETTER L WITH ACUTE;LATIN CAPITAL LETTER L WITH CEDILLA
LATIN SMALL LETTER L WITH CEDILLA;LATIN CAPITAL LETTER L WITH CARON
LATIN SMALL LETTER L WITH CARON;LATIN CAPITAL LETTER L WITH MIDDLE DOT
LATIN SMALL LETTER L WITH MIDDLE DOT;LATIN CAPITAL LETTER L WITH STROKE
LATIN SMALL LETTER L WITH STROKE;LATIN CAPITAL LETTER N WITH ACUTE
LATIN SMALL LETTER N WITH ACUTE;LATIN CAPITAL LETTER N WITH CEDILLA
LATIN SMALL LETTER N WITH CEDILLA;LATIN CAPITAL LETTER N WITH CARON
LATIN SMALL LETTER N WITH CARON;LATIN SMALL LETTER N PRECEDED BY APOSTROPHE
LATIN CAPITAL LETTER ENG;LATIN SMALL LETTER ENG;LATIN CAPITAL LETTER O WITH MACRON
LATIN SMALL LETTER O WITH MACRON;LATIN CAPITAL LETTER O WITH BREVE
LATIN SMALL LETTER O WITH BREVE;LATIN CAPITAL LETTER O WITH DOUBLE ACUTE
LATIN SMALL LETTER O WITH DOUBLE ACUTE;LATIN CAPITAL LIGATURE OE;LATIN SMALL LIGATURE OE
LATIN CAPITAL LETTER R WITH ACUTE;LATIN SMALL LETTER R WITH ACUTE
LATIN CAPITAL LETTER R WITH CEDILLA;LATIN SMALL LETTER R WITH CEDILLA
LATIN CAPITAL LETTER R WITH CARON;LATIN SMALL LETTER R WITH CARON
LATIN CAPITAL LETTER S WITH ACUTE;LATIN SMALL LETTER S WITH ACUTE
LATIN CAPITAL LETTER S WITH CIRCUMFLEX;LATIN SMALL LETTER S WITH CIRCUMFLEX
LATIN CAPITAL LETTER S WITH CEDILLA;LATIN SMALL LETTER S WITH CEDILLA
LATIN CAPITAL LETTER S WITH CARON;LATIN SMALL LETTER S WITH CARON
LATIN CAPITAL LETTER T WITH CEDILLA;LATIN SMALL LETTER T WITH CEDILLA
LATIN CAPITAL LETTER T WITH CARON;LATIN SMALL LETTER T WITH CARON
LATIN CAPITAL LETTER T WITH STROKE;LATIN SMALL LETTER T WITH STROKE
LATIN CAPITAL LETTER U WITH TILDE;LATIN SMALL LETTER U WITH TILDE
LATIN CAPITAL LETTER U WITH MACRON;LATIN SMALL LETTER U WITH MACRON
LATIN CAPITAL LETTER U WITH BREVE;LATIN SMALL LETTER U WITH BREVE
LATIN CAPITAL LETTER U WITH RING ABOVE;LATIN SMALL LETTER U WITH RING ABOVE
LATIN CAPITAL LETTER U WITH DOUBLE ACUTE;LATIN SMALL LETTER U WITH DOUBLE ACUTE
LATIN CAPITAL LETTER U WITH OGONEK;LATIN SMALL LETTER U WITH OGONEK
LATIN CAPITAL LETTER W WITH CIRCUMFLEX;LATIN SMALL LETTER W WITH CIRCUMFLEX
LATIN CAPITAL LETTER Y WITH CIRCUMFLEX;LATIN SMALL LETTER Y WITH CIRCUMFLEX
LATIN CAPITAL LETTER Y WITH DIAERESIS;LATIN CAPITAL LETTER Z WITH ACUTE
LATIN SMALL LETTER Z WITH ACUTE;LATIN CAPITAL LETTER Z WITH DOT ABOVE
LATIN SMALL LETTER Z WITH DOT ABOVE;LATIN CAPITAL LETTER Z WITH CARON
LATIN SMALL LETTER Z WITH CARON;LATIN SMALL LETTER LONG S;LATIN SMALL LETTER B WITH STROKE
LATIN CAPITAL LETTER B WITH HOOK;LATIN CAPITAL LETTER B WITH TOPBAR
LATIN SMALL LETTER B WITH TOPBAR;LATIN CAPITAL LETTER TONE SIX;LATIN SMALL LETTER TONE SIX
LATIN CAPITAL LETTER OPEN O;LATIN CAPITAL LETTER C WITH HOOK;LATIN SMALL LETTER C WITH HOOK
LATIN CAPITAL LETTER AFRICAN D;LATIN CAPITAL LETTER D WITH HOOK
LATIN CAPITAL LETTER D WITH TOPBAR;LATIN SMALL LETTER D WITH TOPBAR
LATIN SMALL LETTER TURNED DELTA;LATIN CAPITAL LETTER REVERSED E;LATIN CAPITAL LETTER SCHWA
LATIN CAPITAL LETTER OPEN E;LATIN CAPITAL LETTER F WITH HOOK;LATIN SMALL LETTER F WITH HOOK
LATIN CAPITAL LETTER G WITH HOOK;LATIN CAPITAL LETTER GAMMA;LATIN SMALL LETTER HV
LATIN CAPITAL LETTER IOTA;LATIN CAPITAL LETTER I WITH STROKE;LATIN CAPITAL LETTER K WITH HOOK
LATIN SMALL LETTER K WITH HOOK;LATIN SMALL LETTER L WITH BAR
LATIN SMALL LETTER LAMBDA WITH STROKE;LATIN CAPITAL LETTER TURNED M
LATIN CAPITAL LETTER N WITH LEFT HOOK;LATIN SMALL LETTER N WITH LONG RIGHT LEG
LATIN CAPITAL LETTER O WITH MIDDLE TILDE;LATIN CAPITAL LETTER O WITH HORN
LATIN SMALL LETTER O WITH HORN;LATIN CAPITAL LETTER OI;LATIN SMALL LETTER OI
LATIN CAPITAL LETTER P WITH HOOK;LATIN SMALL LETTER P WITH HOOK;LATIN LETTER YR
LATIN CAPITAL LETTER TONE TWO;LATIN SMALL LETTER TONE TWO;LATIN CAPITAL LETTER ESH
LATIN LETTER REVERSED ESH LOOP;LATIN SMALL LETTER T WITH PALATAL HOOK
LATIN CAPITAL LETTER T WITH HOOK;LATIN SMALL LETTER T WITH HOOK
LATIN CAPITAL LETTER T WITH RETROFLEX HOOK;LATIN CAPITAL LETTER U WITH HORN
LATIN SMALL LETTER U WITH HORN;LATIN CAPITAL LETTER UPSILON;LATIN CAPITAL LETTER V WITH HOOK
LATIN CAPITAL LETTER Y WITH HOOK;LATIN SMALL LETTER Y WITH HOOK
LATIN CAPITAL LETTER Z WITH STROKE;LATIN SMALL LETTER Z WITH STROKE;LATIN CAPITAL LETTER EZH
LATIN CAPITAL LETTER EZH REVERSED;LATIN SMALL LETTER EZH REVERSED
LATIN SMALL LETTER EZH WITH TAIL;LATIN LETTER TWO WITH STROKE;LATIN CAPITAL LETTER TONE FIVE
LATIN SMALL LETTER TONE FIVE;LATIN LETTER INVERTED GLOTTAL STOP WITH STROKE;LATIN LETTER WYNN
LATIN LETTER DENTAL CLICK;LATIN LETTER LATERAL CLICK;LATIN LETTER ALVEOLAR CLICK
LATIN LETTER RETROFLEX CLICK;LATIN CAPITAL LETTER DZ WITH CARON
LATIN CAPITAL LETTER D WITH SMALL LETTER Z WITH CARON;LATIN SMALL LETTER DZ WITH CARON
LATIN CAPITAL LETTER LJ;LATIN CAPITAL LETTER L WITH SMALL LETTER J;LATIN SMALL LETTER LJ
LATIN CAPITAL LETTER NJ;LATIN CAPITAL LETTER N WITH SMALL LETTER J;LATIN SMALL LETTER NJ
LATIN CAPITAL LETTER A WITH CARON;LATIN SMALL LETTER A WITH CARON
LATIN CAPITAL LETTER I WITH CARON;LATIN SMALL LETTER I WITH CARON
LATIN CAPITAL LETTER O WITH CARON;LATIN SMALL LETTER O WITH CARON
LATIN CAPITAL LETTER U WITH CARON;LATIN SMALL LETTER U WITH CARON
LATIN CAPITAL LETTER U WITH DIAERESIS AND MACRON;LATIN SMALL LETTER U WITH DIAERESIS AND MACRON
LATIN CAPITAL LETTER U WITH DIAERESIS AND ACUTE;LATIN SMALL LETTER U WITH DIAERESIS AND ACUTE
LATIN CAPITAL LETTER U WITH DIAERESIS AND CARON;LATIN SMALL LETTER U WITH DIAERESIS AND CARON
LATIN CAPITAL LETTER U WITH DIAERESIS AND GRAVE;LATIN SMALL LETTER U WITH DIAERESIS AND GRAVE
LATIN SMALL LETTER TURNED E;LATIN CAPITAL LETTER A WITH DIAERESIS AND MACRON
LATIN SMALL LETTER A WITH DIAERESIS AND MACRON;LATIN CAPITAL LETTER A WITH DOT ABOVE AND MACRON
LATIN SMALL LETTER A WITH DOT ABOVE AND MACRON;LATIN CAPITAL LETTER AE WITH MACRON
LATIN SMALL LETTER AE WITH MACRON;LATIN CAPITAL LETTER G WITH STROKE
LATIN SMALL LETTER G WITH STROKE;LATIN CAPITAL LETTER G WITH CARON
LATIN SMALL LETTER G WITH CARON;LATIN CAPITAL LETTER K WITH CARON;LATIN SMALL LETTER K WITH CARON
LATIN CAPITAL LETTER O WITH OGONEK;LATIN SMALL LETTER O WITH OGONEK
LATIN CAPITAL LETTER O WITH OGONEK AND MACRON;LATIN SMALL LETTER O WITH OGONEK AND MACRON
LATIN CAPITAL LETTER EZH WITH CARON;LATIN SMALL LETTER EZH WITH CARON
LATIN SMALL LETTER J WITH CARON;LATIN CAPITAL LETTER DZ
LATIN CAPITAL LETTER D WITH SMALL LETTER Z;LATIN SMALL LETTER DZ
LATIN CAPITAL LETTER G WITH ACUTE;LATIN SMALL LETTER G WITH ACUTE;LATIN CAPITAL LETTER HWAIR
LATIN CAPITAL LETTER WYNN;LATIN CAPITAL LETTER N WITH GRAVE;LATIN SMALL LETTER N WITH GRAVE
LATIN CAPITAL LETTER A WITH RING ABOVE AND ACUTE;LATIN SMALL LETTER A WITH RING ABOVE AND ACUTE
LATIN CAPITAL LETTER AE WITH ACUTE;LATIN SMALL LETTER AE WITH ACUTE
LATIN CAPITAL LETTER O WITH STROKE AND ACUTE;LATIN SMALL LETTER O WITH STROKE AND ACUTE
LATIN CAPITAL LETTER A WITH DOUBLE GRAVE;LATIN SMALL LETTER A WITH DOUBLE GRAVE
LATIN CAPITAL LETTER A WITH INVERTED BREVE;LATIN SMALL LETTER A WITH INVERTED BREVE
LATIN CAPITAL LETTER E WITH DOUBLE GRAVE;LATIN SMALL LETTER E WITH DOUBLE GRAVE
LATIN CAPITAL LETTER E WITH INVERTED BREVE;LATIN SMALL LETTER E WITH INVERTED BREVE
LATIN CAPITAL LETTER I WITH DOUBLE GRAVE;LATIN SMALL LETTER I WITH DOUBLE GRAVE
LATIN CAPITAL LETTER I WITH INVERTED BREVE;LATIN SMALL LETTER I WITH INVERTED BREVE
LATIN CAPITAL LETTER O WITH DOUBLE GRAVE;LATIN SMALL LETTER O WITH DOUBLE GRAVE
LATIN CAPITAL LETTER O WITH INVERTED BREVE;LATIN SMALL LETTER O WITH INVERTED BREVE
LATIN CAPITAL LETTER R WITH DOUBLE GRAVE;LATIN SMALL LETTER R WITH DOUBLE GRAVE
LATIN CAPITAL LETTER R WITH INVERTED BREVE;LATIN SMALL LETTER R WITH INVERTED BREVE
LATIN CAPITAL LETTER U WITH DOUBLE GRAVE;LATIN SMALL LETTER U WITH DOUBLE GRAVE
LATIN CAPITAL LETTER U WITH INVERTED BREVE;LATIN SMALL LETTER U WITH INVERTED BREVE
LATIN CAPITAL LETTER S WITH COMMA BELOW;LATIN SMALL LETTER S WITH COMMA BELOW
LATIN CAPITAL LETTER T WITH COMMA BELOW;LATIN SMALL LETTER T WITH COMMA BELOW
LATIN CAPITAL LETTER YOGH;LATIN SMALL LETTER YOGH;LATIN CAPITAL LETTER H WITH CARON
LATIN SMALL LETTER H WITH CARON;LATIN CAPITAL LETTER N WITH LONG RIGHT LEG
LATIN SMALL LETTER D WITH CURL;LATIN CAPITAL LETTER OU;LATIN SMALL LETTER OU
LATIN CAPITAL LETTER Z WITH HOOK;LATIN SMALL LETTER Z WITH HOOK
LATIN CAPITAL LETTER A WITH DOT ABOVE;LATIN SMALL LETTER A WITH DOT ABOVE
LATIN CAPITAL LETTER E WITH CEDILLA;LATIN SMALL LETTER E WITH CEDILLA
LATIN CAPITAL LETTER O WITH DIAERESIS AND MACRON;LATIN SMALL LETTER O WITH DIAERESIS AND MACRON
LATIN CAPITAL LETTER O WITH TILDE AND MACRON;LATIN SMALL LETTER O WITH TILDE AND MACRON
LATIN CAPITAL LETTER O WITH DOT ABOVE;LATIN SMALL LETTER O WITH DOT ABOVE
LATIN CAPITAL LETTER O WITH DOT ABOVE AND MACRON;LATIN SMALL LETTER O WITH DOT ABOVE AND MACRON
LATIN CAPITAL LETTER Y WITH MACRON;LATIN SMALL LETTER Y WITH MACRON
LATIN SMALL LETTER L WITH CURL;LATIN SMALL LETTER N WITH CURL;LATIN SMALL LETTER T WITH CURL
LATIN SMALL LETTER DOTLESS J;LATIN SMALL LETTER DB DIGRAPH;LATIN SMALL LETTER QP DIGRAPH
LATIN CAPITAL LETTER A WITH STROKE;LATIN CAPITAL LETTER C WITH STROKE
LATIN SMALL LETTER C WITH STROKE;LATIN CAPITAL LETTER L WITH BAR
LATIN CAPITAL LETTER T WITH DIAGONAL STROKE;LATIN SMALL LETTER S WITH SWASH TAIL
LATIN SMALL LETTER Z WITH SWASH TAIL;LATIN CAPITAL LETTER GLOTTAL STOP
LATIN SMALL LETTER GLOTTAL STOP;LATIN CAPITAL LETTER B WITH STROKE;LATIN CAPITAL LETTER U BAR
LATIN CAPITAL LETTER TURNED V;LATIN CAPITAL LETTER E WITH STROKE;LATIN SMALL LETTER E WITH STROKE
LATIN CAPITAL LETTER J WITH STROKE;LATIN SMALL LETTER J WITH STROKE
LATIN CAPITAL LETTER SMALL Q WITH HOOK TAIL;LATIN SMALL LETTER Q WITH HOOK TAIL
LATIN CAPITAL LETTER R WITH STROKE;LATIN SMALL LETTER R WITH STROKE
LATIN CAPITAL LETTER Y WITH STROKE;LATIN SMALL LETTER Y WITH STROKE;LATIN SMALL LETTER TURNED A
LATIN SMALL LETTER ALPHA;LATIN SMALL LETTER TURNED ALPHA;LATIN SMALL LETTER B WITH HOOK
LATIN SMALL LETTER OPEN O;LATIN SMALL LETTER C WITH CURL;LATIN SMALL LETTER D WITH TAIL
LATIN SMALL LETTER D WITH HOOK;LATIN SMALL LETTER REVERSED E;LATIN SMALL LETTER SCHWA
LATIN SMALL LETTER SCHWA WITH HOOK;LATIN SMALL LETTER OPEN E;LATIN SMALL LETTER REVERSED OPEN E
LATIN SMALL LETTER REVERSED OPEN E WITH HOOK;LATIN SMALL LETTER CLOSED REVERSED OPEN E
LATIN SMALL LETTER DOTLESS J WITH STROKE;LATIN SMALL LETTER G WITH HOOK
LATIN SMALL LETTER SCRIPT G;LATIN LETTER SMALL CAPITAL G;LATIN SMALL LETTER GAMMA
LATIN SMALL LETTER RAMS HORN;LATIN SMALL LETTER TURNED H;LATIN SMALL LETTER H WITH HOOK
LATIN SMALL LETTER HENG WITH HOOK;LATIN SMALL LETTER I WITH STROKE;LATIN SMALL LETTER IOTA
LATIN LETTER SMALL CAPITAL I;LATIN SMALL LETTER L WITH MIDDLE TILDE
LATIN SMALL LETTER L WITH BELT;LATIN SMALL LETTER L WITH RETROFLEX HOOK;LATIN SMALL LETTER LEZH
LATIN SMALL LETTER TURNED M;LATIN SMALL LETTER TURNED M WITH LONG LEG
LATIN SMALL LETTER M WITH HOOK;LATIN SMALL LETTER N WITH LEFT HOOK
LATIN SMALL LETTER N WITH RETROFLEX HOOK;LATIN LETTER SMALL CAPITAL N;LATIN SMALL LETTER BARRED O
LATIN LETTER SMALL CAPITAL OE;LATIN SMALL LETTER CLOSED OMEGA;LATIN SMALL LETTER PHI
LATIN SMALL LETTER TURNED R;LATIN SMALL LETTER TURNED R WITH LONG LEG
LATIN SMALL LETTER TURNED R WITH HOOK;LATIN SMALL LETTER R WITH LONG LEG
LATIN SMALL LETTER R WITH TAIL;LATIN SMALL LETTER R WITH FISHHOOK
LATIN SMALL LETTER REVERSED R WITH FISHHOOK;LATIN LETTER SMALL CAPITAL R
LATIN LETTER SMALL CAPITAL INVERTED R;LATIN SMALL LETTER S WITH HOOK;LATIN SMALL LETTER ESH
LATIN SMALL LETTER DOTLESS J WITH STROKE AND HOOK;LATIN SMALL LETTER SQUAT REVERSED ESH
LATIN SMALL LETTER ESH WITH CURL;LATIN SMALL LETTER TURNED T
LATIN SMALL LETTER T WITH RETROFLEX HOOK;LATIN SMALL LETTER U BAR;LATIN SMALL LETTER UPSILON
LATIN SMALL LETTER V WITH HOOK;LATIN SMALL LETTER TURNED V;LATIN SMALL LETTER TURNED W
LATIN SMALL LETTER TURNED Y;LATIN LETTER SMALL CAPITAL Y;LATIN SMALL LETTER Z WITH RETROFLEX HOOK
LATIN SMALL LETTER Z WITH CURL;LATIN SMALL LETTER EZH;LATIN SMALL LETTER EZH WITH CURL
LATIN LETTER GLOTTAL STOP;LATIN LETTER PHARYNGEAL VOICED FRICATIVE
LATIN LETTER INVERTED GLOTTAL STOP;LATIN LETTER STRETCHED C;LATIN LETTER BILABIAL CLICK
LATIN LETTER SMALL CAPITAL B;LATIN SMALL LETTER CLOSED OPEN E
LATIN LETTER SMALL CAPITAL G WITH HOOK;LATIN LETTER SMALL CAPITAL H
LATIN SMALL LETTER J WITH CROSSED-TAIL;LATIN SMALL LETTER TURNED K;LATIN LETTER SMALL CAPITAL L
LATIN SMALL LETTER Q WITH HOOK;LATIN LETTER GLOTTAL STOP WITH STROKE
LATIN LETTER REVERSED GLOTTAL STOP WITH STROKE;LATIN SMALL LETTER DZ DIGRAPH
LATIN SMALL LETTER DEZH DIGRAPH;LATIN SMALL LETTER DZ DIGRAPH WITH CURL
LATIN SMALL LETTER TS DIGRAPH;LATIN SMALL LETTER TESH DIGRAPH
LATIN SMALL LETTER TC DIGRAPH WITH CURL;LATIN SMALL LETTER FENG DIGRAPH
LATIN SMALL LETTER LS DIGRAPH;LATIN SMALL LETTER LZ DIGRAPH;LATIN LETTER BILABIAL PERCUSSIVE
LATIN LETTER BIDENTAL PERCUSSIVE;LATIN SMALL LETTER TURNED H WITH FISHHOOK
LATIN SMALL LETTER TURNED H WITH FISHHOOK AND TAIL;MODIFIER LETTER SMALL H
MODIFIER LETTER SMALL H WITH HOOK;MODIFIER LETTER SMALL J;MODIFIER LETTER SMALL R
MODIFIER LETTER SMALL TURNED R;MODIFIER LETTER SMALL TURNED R WITH HOOK
MODIFIER LETTER SMALL CAPITAL INVERTED R;MODIFIER LETTER SMALL W;MODIFIER LETTER SMALL Y
MODIFIER LETTER PRIME;MODIFIER LETTER DOUBLE PRIME;MODIFIER LETTER TURNED COMMA
MODIFIER LETTER APOSTROPHE;MODIFIER LETTER REVERSED COMMA;MODIFIER LETTER RIGHT HALF RING
MODIFIER LETTER LEFT HALF RING;MODIFIER LETTER GLOTTAL STOP;MODIFIER LETTER REVERSED GLOTTAL STOP
MODIFIER LETTER LEFT ARROWHEAD;MODIFIER LETTER RIGHT ARROWHEAD;MODIFIER LETTER UP ARROWHEAD
MODIFIER LETTER DOWN ARROWHEAD;MODIFIER LETTER CIRCUMFLEX ACCENT;CARON
MODIFIER LETTER VERTICAL LINE;MODIFIER LETTER MACRON;MODIFIER LETTER ACUTE ACCENT
MODIFIER LETTER GRAVE ACCENT;MODIFIER LETTER LOW VERTICAL LINE;MODIFIER LETTER LOW MACRON
MODIFIER LETTER LOW GRAVE ACCENT;MODIFIER LETTER LOW ACUTE ACCENT
MODIFIER LETTER TRIANGULAR COLON;MODIFIER LETTER HALF TRIANGULAR COLON
MODIFIER LETTER CENTRED RIGHT HALF RING;MODIFIER LETTER CENTRED LEFT HALF RING
MODIFIER LETTER UP TACK;MODIFIER LETTER DOWN TACK;MODIFIER LETTER PLUS SIGN
MODIFIER LETTER MINUS SIGN;BREVE;DOT ABOVE;RING ABOVE;OGONEK;SMALL TILDE;DOUBLE ACUTE ACCENT
MODIFIER LETTER RHOTIC HOOK;MODIFIER LETTER CROSS ACCENT;MODIFIER LETTER SMALL GAMMA
MODIFIER LETTER SMALL L;MODIFIER LETTER SMALL S;MODIFIER LETTER SMALL X
MODIFIER LETTER SMALL REVERSED GLOTTAL STOP;MODIFIER LETTER EXTRA-HIGH TONE BAR
MODIFIER LETTER HIGH TONE BAR;MODIFIER LETTER MID TONE BAR;MODIFIER LETTER LOW TONE BAR
MODIFIER LETTER EXTRA-LOW TONE BAR;MODIFIER LETTER YIN DEPARTING TONE MARK
MODIFIER LETTER YANG DEPARTING TONE MARK;MODIFIER LETTER VOICING;MODIFIER LETTER UNASPIRATED
MODIFIER LETTER DOUBLE APOSTROPHE;MODIFIER LETTER LOW DOWN ARROWHEAD
MODIFIER LETTER LOW UP ARROWHEAD;MODIFIER LETTER LOW LEFT ARROWHEAD
MODIFIER LETTER LOW RIGHT ARROWHEAD;MODIFIER LETTER LOW RING;MODIFIER LETTER MIDDLE GRAVE ACCENT
MODIFIER LETTER MIDDLE DOUBLE GRAVE ACCENT;MODIFIER LETTER MIDDLE DOUBLE ACUTE ACCENT
MODIFIER LETTER LOW TILDE;MODIFIER LETTER RAISED COLON;MODIFIER LETTER BEGIN HIGH TONE
MODIFIER LETTER END HIGH TONE;MODIFIER LETTER BEGIN LOW TONE;MODIFIER LETTER END LOW TONE
MODIFIER LETTER SHELF;MODIFIER LETTER OPEN SHELF;MODIFIER LETTER LOW LEFT ARROW
COMBINING GRAVE ACCENT;COMBINING ACUTE ACCENT;COMBINING CIRCUMFLEX ACCENT;COMBINING TILDE
COMBINING MACRON;COMBINING OVERLINE;COMBINING BREVE;COMBINING DOT ABOVE;COMBINING DIAERESIS
COMBINING HOOK ABOVE;COMBINING RING ABOVE;COMBINING DOUBLE ACUTE ACCENT;COMBINING CARON
COMBINING VERTICAL LINE ABOVE;COMBINING DOUBLE VERTICAL LINE ABOVE;COMBINING DOUBLE GRAVE ACCENT
COMBINING CANDRABINDU;COMBINING INVERTED BREVE;COMBINING TURNED COMMA ABOVE;COMBINING COMMA ABOVE
COMBINING REVERSED COMMA ABOVE;COMBINING COMMA ABOVE RIGHT;COMBINING GRAVE ACCENT BELOW
COMBINING ACUTE ACCENT BELOW;COMBINING LEFT TACK BELOW;COMBINING RIGHT TACK BELOW
COMBINING LEFT ANGLE ABOVE;COMBINING HORN;COMBINING LEFT HALF RING BELOW;COMBINING UP TACK BELOW
COMBINING DOWN TACK BELOW;COMBINING PLUS SIGN BELOW;COMBINING MINUS SIGN BELOW
COMBINING PALATALIZED HOOK BELOW;COMBINING RETROFLEX HOOK BELOW;COMBINING DOT BELOW
COMBINING DIAERESIS BELOW;COMBINING RING BELOW;COMBINING COMMA BELOW;COMBINING CEDILLA
COMBINING OGONEK;COMBINING VERTICAL LINE BELOW;COMBINING BRIDGE BELOW
COMBINING INVERTED DOUBLE ARCH BELOW;COMBINING CARON BELOW;COMBINING CIRCUMFLEX ACCENT BELOW
COMBINING BREVE BELOW;COMBINING INVERTED BREVE BELOW;COMBINING TILDE BELOW;COMBINING MACRON BELOW
COMBINING LOW LINE;COMBINING DOUBLE LOW LINE;COMBINING TILDE OVERLAY
COMBINING SHORT STROKE OVERLAY;COMBINING LONG STROKE OVERLAY;COMBINING SHORT SOLIDUS OVERLAY
COMBINING LONG SOLIDUS OVERLAY;COMBINING RIGHT HALF RING BELOW;COMBINING INVERTED BRIDGE BELOW
COMBINING SQUARE BELOW;COMBINING SEAGULL BELOW;COMBINING X ABOVE;COMBINING VERTICAL TILDE
COMBINING DOUBLE OVERLINE;COMBINING GRAVE TONE MARK;COMBINING ACUTE TONE MARK
COMBINING GREEK PERISPOMENI;COMBINING GREEK KORONIS;COMBINING GREEK DIALYTIKA TONOS
COMBINING GREEK YPOGEGRAMMENI;COMBINING BRIDGE ABOVE;COMBINING EQUALS SIGN BELOW
COMBINING DOUBLE VERTICAL LINE BELOW;COMBINING LEFT ANGLE BELOW;COMBINING NOT TILDE ABOVE
COMBINING HOMOTHETIC ABOVE;COMBINING ALMOST EQUAL TO ABOVE;COMBINING LEFT RIGHT ARROW BELOW
COMBINING UPWARDS ARROW BELOW;COMBINING GRAPHEME JOINER;COMBINING RIGHT ARROWHEAD ABOVE
COMBINING LEFT HALF RING ABOVE;COMBINING FERMATA;COMBINING X BELOW;COMBINING LEFT ARROWHEAD BELOW
COMBINING RIGHT ARROWHEAD BELOW;COMBINING RIGHT ARROWHEAD AND UP ARROWHEAD BELOW
COMBINING RIGHT HALF RING ABOVE;COMBINING DOT ABOVE RIGHT;COMBINING ASTERISK BELOW
COMBINING DOUBLE RING BELOW;COMBINING ZIGZAG ABOVE;COMBINING DOUBLE BREVE BELOW
COMBINING DOUBLE BREVE;COMBINING DOUBLE MACRON;COMBINING DOUBLE MACRON BELOW
COMBINING DOUBLE TILDE;COMBINING DOUBLE INVERTED BREVE;COMBINING DOUBLE RIGHTWARDS ARROW BELOW
COMBINING LATIN SMALL LETTER A;COMBINING LATIN SMALL LETTER E;COMBINING LATIN SMALL LETTER I
COMBINING LATIN SMALL LETTER O;COMBINING LATIN SMALL LETTER U;COMBINING LATIN SMALL LETTER C
COMBINING LATIN SMALL LETTER D;COMBINING LATIN SMALL LETTER H;COMBINING LATIN SMALL LETTER M
COMBINING LATIN SMALL LETTER R;COMBINING LATIN SMALL LETTER T;COMBINING LATIN SMALL LETTER V
COMBINING LATIN SMALL LETTER X;GREEK CAPITAL LETTER HETA;GREEK SMALL LETTER HETA
GREEK CAPITAL LETTER ARCHAIC SAMPI;GREEK SMALL LETTER ARCHAIC SAMPI;GREEK NUMERAL SIGN
GREEK LOWER NUMERAL SIGN;GREEK CAPITAL LETTER PAMPHYLIAN DIGAMMA
GREEK SMALL LETTER PAMPHYLIAN DIGAMMA"),
  (0x37a, "GREEK YPOGEGRAMMENI;GREEK SMALL REVERSED LUNATE SIGMA SYMBOL
GREEK SMALL DOTTED LUNATE SIGMA SYMBOL;GREEK SMALL REVERSED DOTTED LUNATE SIGMA SYMBOL
GREEK QUESTION MARK;GREEK CAPITAL LETTER YOT"),
  (0x384, "GREEK TONOS;GREEK DIALYTIKA TONOS;GREEK CAPITAL LETTER ALPHA WITH TONOS
GREEK ANO TELEIA;GREEK CAPITAL LETTER EPSILON WITH TONOS;GREEK CAPITAL LETTER ETA WITH TONOS
GREEK CAPITAL LETTER IOTA WITH TONOS"),
  (0x38c, "GREEK CAPITAL LETTER OMICRON WITH TONOS"),
  (0x38e, "GREEK CAPITAL LETTER UPSILON WITH TONOS;GREEK CAPITAL LETTER OMEGA WITH TONOS
GREEK SMALL LETTER IOTA WITH DIALYTIKA AND TONOS;GREEK CAPITAL LETTER ALPHA
GREEK CAPITAL LETTER BETA;GREEK CAPITAL LETTER GAMMA;GREEK CAPITAL LETTER DELTA
GREEK CAPITAL LETTER EPSILON;GREEK CAPITAL LETTER ZETA;GREEK CAPITAL LETTER ETA
GREEK CAPITAL LETTER THETA;GREEK CAPITAL LETTER IOTA;GREEK CAPITAL LETTER KAPPA
GREEK CAPITAL LETTER LAMDA;GREEK CAPITAL LETTER MU;GREEK CAPITAL LETTER NU
GREEK CAPITAL LETTER XI;GREEK CAPITAL LETTER OMICRON;GREEK CAPITAL LETTER PI
GREEK CAPITAL LETTER RHO"),
  (0x3a3, "GREEK CAPITAL LETTER SIGMA;GREEK CAPITAL LETTER TAU;GREEK CAPITAL LETTER UPSILON
GREEK CAPITAL LETTER PHI;GREEK CAPITAL LETTER CHI;GREEK CAPITAL LETTER PSI
GREEK CAPITAL LETTER OMEGA;GREEK CAPITAL LETTER IOTA WITH DIALYTIKA
GREEK CAPITAL LETTER UPSILON WITH DIALYTIKA;GREEK SMALL LETTER ALPHA WITH TONOS
GREEK SMALL LETTER EPSILON WITH TONOS;GREEK SMALL LETTER ETA WITH TONOS
GREEK SMALL LETTER IOTA WITH TONOS;GREEK SMALL LETTER UPSILON WITH DIALYTIKA AND TONOS
GREEK SMALL LETTER ALPHA;GREEK SMALL LETTER BETA;GREEK SMALL LETTER GAMMA
GREEK SMALL LETTER DELTA;GREEK SMALL LETTER EPSILON;GREEK SMALL LETTER ZETA
GREEK SMALL LETTER ETA;GREEK SMALL LETTER THETA;GREEK SMALL LETTER IOTA;GREEK SMALL LETTER KAPPA
GREEK SMALL LETTER LAMDA;GREEK SMALL LETTER MU;GREEK SMALL LETTER NU;GREEK SMALL LETTER XI
GREEK SMALL LETTER OMICRON;GREEK SMALL LETTER PI;GREEK SMALL LETTER RHO
GREEK SMALL LETTER FINAL SIGMA;GREEK SMALL LETTER SIGMA;GREEK SMALL LETTER TAU
GREEK SMALL LETTER UPSILON;GREEK SMALL LETTER PHI;GREEK SMALL LETTER CHI;GREEK SMALL LETTER PSI
GREEK SMALL LETTER OMEGA;GREEK SMALL LETTER IOTA WITH DIALYTIKA
GREEK SMALL LETTER UPSILON WITH DIALYTIKA;GREEK SMALL LETTER OMICRON WITH TONOS
GREEK SMALL LETTER UPSILON WITH TONOS;GREEK SMALL LETTER OMEGA WITH TONOS
GREEK CAPITAL KAI SYMBOL;GREEK BETA SYMBOL;GREEK THETA SYMBOL;GREEK UPSILON WITH HOOK SYMBOL
GREEK UPSILON WITH ACUTE AND HOOK SYMBOL;GREEK UPSILON WITH DIAERESIS AND HOOK SYMBOL
GREEK PHI SYMBOL;GREEK PI SYMBOL;GREEK KAI SYMBOL;GREEK LETTER ARCHAIC KOPPA
GREEK SMALL LETTER ARCHAIC KOPPA;GREEK LETTER STIGMA;GREEK SMALL LETTER STIGMA
GREEK LETTER DIGAMMA;GREEK SMALL LETTER DIGAMMA;GREEK LETTER KOPPA;GREEK SMALL LETTER KOPPA
GREEK LETTER SAMPI;GREEK SMALL LETTER SAMPI;COPTIC CAPITAL LETTER SHEI;COPTIC SMALL LETTER SHEI
COPTIC CAPITAL LETTER FEI;COPTIC SMALL LETTER FEI;COPTIC CAPITAL LETTER KHEI
COPTIC SMALL LETTER KHEI;COPTIC CAPITAL LETTER HORI;COPTIC SMALL LETTER HORI
COPTIC CAPITAL LETTER GANGIA;COPTIC SMALL LETTER GANGIA;COPTIC CAPITAL LETTER SHIMA
COPTIC SMALL LETTER SHIMA;COPTIC CAPITAL LETTER DEI;COPTIC SMALL LETTER DEI;GREEK KAPPA SYMBOL
GREEK RHO SYMBOL;GREEK LUNATE SIGMA SYMBOL;GREEK LETTER YOT;GREEK CAPITAL THETA SYMBOL
GREEK LUNATE EPSILON SYMBOL;GREEK REVERSED LUNATE EPSILON SYMBOL;GREEK CAPITAL LETTER SHO
GREEK SMALL LETTER SHO;GREEK CAPITAL LUNATE SIGMA SYMBOL;GREEK CAPITAL LETTER SAN
GREEK SMALL LETTER SAN;GREEK RHO WITH STROKE SYMBOL;GREEK CAPITAL REVERSED LUNATE SIGMA SYMBOL
GREEK CAPITAL DOTTED LUNATE SIGMA SYMBOL;GREEK CAPITAL REVERSED DOTTED LUNATE SIGMA SYMBOL
CYRILLIC CAPITAL LETTER IE WITH GRAVE;CYRILLIC CAPITAL LETTER IO;CYRILLIC CAPITAL LETTER DJE
CYRILLIC CAPITAL LETTER GJE;CYRILLIC CAPITAL LETTER UKRAINIAN IE;CYRILLIC CAPITAL LETTER DZE
CYRILLIC CAPITAL LETTER BYELORUSSIAN-UKRAINIAN I;CYRILLIC CAPITAL LETTER YI
CYRILLIC CAPITAL LETTER JE;CYRILLIC CAPITAL LETTER LJE;CYRILLIC CAPITAL LETTER NJE
CYRILLIC CAPITAL LETTER TSHE;CYRILLIC CAPITAL LETTER KJE;CYRILLIC CAPITAL LETTER I WITH GRAVE
CYRILLIC CAPITAL LETTER SHORT U;CYRILLIC CAPITAL LETTER DZHE;CYRILLIC CAPITAL LETTER A
CYRILLIC CAPITAL LETTER BE;CYRILLIC CAPITAL LETTER VE;CYRILLIC CAPITAL LETTER GHE
CYRILLIC CAPITAL LETTER DE;CYRILLIC CAPITAL LETTER IE;CYRILLIC CAPITAL LETTER ZHE
CYRILLIC CAPITAL LETTER ZE;CYRILLIC CAPITAL LETTER I;CYRILLIC CAPITAL LETTER SHORT I
CYRILLIC CAPITAL LETTER KA;CYRILLIC CAPITAL LETTER EL;CYRILLIC CAPITAL LETTER EM
CYRILLIC CAPITAL LETTER EN;CYRILLIC CAPITAL LETTER O;CYRILLIC CAPITAL LETTER PE
CYRILLIC CAPITAL LETTER ER;CYRILLIC CAPITAL LETTER ES;CYRILLIC CAPITAL LETTER TE
CYRILLIC CAPITAL LETTER U;CYRILLIC CAPITAL LETTER EF;CYRILLIC CAPITAL LETTER HA
CYRILLIC CAPITAL LETTER TSE;CYRILLIC CAPITAL LETTER CHE;CYRILLIC CAPITAL LETTER SHA
CYRILLIC CAPITAL LETTER SHCHA;CYRILLIC CAPITAL LETTER HARD SIGN;CYRILLIC CAPITAL LETTER YERU
CYRILLIC CAPITAL LETTER SOFT SIGN;CYRILLIC CAPITAL LETTER E;CYRILLIC CAPITAL LETTER YU
CYRILLIC CAPITAL LETTER YA;CYRILLIC SMALL LETTER A;CYRILLIC SMALL LETTER BE
CYRILLIC SMALL LETTER VE;CYRILLIC SMALL LETTER GHE;CYRILLIC SMALL LETTER DE
CYRILLIC SMALL LETTER IE;CYRILLIC SMALL LETTER ZHE;CYRILLIC SMALL LETTER ZE
CYRILLIC SMALL LETTER I;CYRILLIC SMALL LETTER SHORT I;CYRILLIC SMALL LETTER KA
CYRILLIC SMALL LETTER EL;CYRILLIC SMALL LETTER EM;CYRILLIC SMALL LETTER EN
CYRILLIC SMALL LETTER O;CYRILLIC SMALL LETTER PE;CYRILLIC SMALL LETTER ER
CYRILLIC SMALL LETTER ES;CYRILLIC SMALL LETTER TE;CYRILLIC SMALL LETTER U
CYRILLIC SMALL LETTER EF;CYRILLIC SMALL LETTER HA;CYRILLIC SMALL LETTER TSE
CYRILLIC SMALL LETTER CHE;CYRILLIC SMALL LETTER SHA;CYRILLIC SMALL LETTER SHCHA
CYRILLIC SMALL LETTER HARD SIGN;CYRILLIC SMALL LETTER YERU;CYRILLIC SMALL LETTER SOFT SIGN
CYRILLIC SMALL LETTER E;CYRILLIC SMALL LETTER YU;CYRILLIC SMALL LETTER YA
CYRILLIC SMALL LETTER IE WITH GRAVE;CYRILLIC SMALL LETTER IO;CYRILLIC SMALL LETTER DJE
CYRILLIC SMALL LETTER GJE;CYRILLIC SMALL LETTER UKRAINIAN IE;CYRILLIC SMALL LETTER DZE
CYRILLIC SMALL LETTER BYELORUSSIAN-UKRAINIAN I;CYRILLIC SMALL LETTER YI;CYRILLIC SMALL LETTER JE
CYRILLIC SMALL LETTER LJE;CYRILLIC SMALL LETTER NJE;CYRILLIC SMALL LETTER TSHE
CYRILLIC SMALL LETTER KJE;CYRILLIC SMALL LETTER I WITH GRAVE;CYRILLIC SMALL LETTER SHORT U
CYRILLIC SMALL LETTER DZHE;CYRILLIC CAPITAL LETTER OMEGA;CYRILLIC SMALL LETTER OMEGA
CYRILLIC CAPITAL LETTER YAT;CYRILLIC SMALL LETTER YAT;CYRILLIC CAPITAL LETTER IOTIFIED E
CYRILLIC SMALL LETTER IOTIFIED E;CYRILLIC CAPITAL LETTER LITTLE YUS
CYRILLIC SMALL LETTER LITTLE YUS;CYRILLIC CAPITAL LETTER IOTIFIED LITTLE YUS
CYRILLIC SMALL LETTER IOTIFIED LITTLE YUS;CYRILLIC CAPITAL LETTER BIG YUS
CYRILLIC SMALL LETTER BIG YUS;CYRILLIC CAPITAL LETTER IOTIFIED BIG YUS
CYRILLIC SMALL LETTER IOTIFIED BIG YUS;CYRILLIC CAPITAL LETTER KSI;CYRILLIC SMALL LETTER KSI
CYRILLIC CAPITAL LETTER PSI;CYRILLIC SMALL LETTER PSI;CYRILLIC CAPITAL LETTER FITA
CYRILLIC SMALL LETTER FITA;CYRILLIC CAPITAL LETTER IZHITSA;CYRILLIC SMALL LETTER IZHITSA
CYRILLIC CAPITAL LETTER IZHITSA WITH DOUBLE GRAVE ACCENT
CYRILLIC SMALL LETTER IZHITSA WITH DOUBLE GRAVE ACCENT;CYRILLIC CAPITAL LETTER UK
CYRILLIC SMALL LETTER UK;CYRILLIC CAPITAL LETTER ROUND OMEGA;CYRILLIC SMALL LETTER ROUND OMEGA
CYRILLIC CAPITAL LETTER OMEGA WITH TITLO;CYRILLIC SMALL LETTER OMEGA WITH TITLO
CYRILLIC CAPITAL LETTER OT;CYRILLIC SMALL LETTER OT;CYRILLIC CAPITAL LETTER KOPPA
CYRILLIC SMALL LETTER KOPPA;CYRILLIC THOUSANDS SIGN;COMBINING CYRILLIC TITLO
COMBINING CYRILLIC PALATALIZATION;COMBINING CYRILLIC DASIA PNEUMATA
COMBINING CYRILLIC PSILI PNEUMATA;COMBINING CYRILLIC POKRYTIE
COMBINING CYRILLIC HUNDRED THOUSANDS SIGN;COMBINING CYRILLIC MILLIONS SIGN
CYRILLIC CAPITAL LETTER SHORT I WITH TAIL;CYRILLIC SMALL LETTER SHORT I WITH TAIL
CYRILLIC CAPITAL LETTER SEMISOFT SIGN;CYRILLIC SMALL LETTER SEMISOFT SIGN
CYRILLIC CAPITAL LETTER ER WITH TICK;CYRILLIC SMALL LETTER ER WITH TICK
CYRILLIC CAPITAL LETTER GHE WITH UPTURN;CYRILLIC SMALL LETTER GHE WITH UPTURN
CYRILLIC CAPITAL LETTER GHE WITH STROKE;CYRILLIC SMALL LETTER GHE WITH STROKE
CYRILLIC CAPITAL LETTER GHE WITH MIDDLE HOOK;CYRILLIC SMALL LETTER GHE WITH MIDDLE HOOK
CYRILLIC CAPITAL LETTER ZHE WITH DESCENDER;CYRILLIC SMALL LETTER ZHE WITH DESCENDER
CYRILLIC CAPITAL LETTER ZE WITH DESCENDER;CYRILLIC SMALL LETTER ZE WITH DESCENDER
CYRILLIC CAPITAL LETTER KA WITH DESCENDER;CYRILLIC SMALL LETTER KA WITH DESCENDER
CYRILLIC CAPITAL LETTER KA WITH VERTICAL STROKE;CYRILLIC SMALL LETTER KA WITH VERTICAL STROKE
CYRILLIC CAPITAL LETTER KA WITH STROKE;CYRILLIC SMALL LETTER KA WITH STROKE
CYRILLIC CAPITAL LETTER BASHKIR KA;CYRILLIC SMALL LETTER BASHKIR KA
CYRILLIC CAPITAL LETTER EN WITH DESCENDER;CYRILLIC SMALL LETTER EN WITH DESCENDER
CYRILLIC CAPITAL LIGATURE EN GHE;CYRILLIC SMALL LIGATURE EN GHE
CYRILLIC CAPITAL LETTER PE WITH MIDDLE HOOK;CYRILLIC SMALL LETTER PE WITH MIDDLE HOOK
CYRILLIC CAPITAL LETTER ABKHASIAN HA;CYRILLIC SMALL LETTER ABKHASIAN HA
CYRILLIC CAPITAL LETTER ES WITH DESCENDER;CYRILLIC SMALL LETTER ES WITH DESCENDER
CYRILLIC CAPITAL LETTER TE WITH DESCENDER;CYRILLIC SMALL LETTER TE WITH DESCENDER
CYRILLIC CAPITAL LETTER STRAIGHT U;CYRILLIC SMALL LETTER STRAIGHT U
CYRILLIC CAPITAL LETTER STRAIGHT U WITH STROKE;CYRILLIC SMALL LETTER STRAIGHT U WITH STROKE
CYRILLIC CAPITAL LETTER HA WITH DESCENDER;CYRILLIC SMALL LETTER HA WITH DESCENDER
CYRILLIC CAPITAL LIGATURE TE TSE;CYRILLIC SMALL LIGATURE TE TSE
CYRILLIC CAPITAL LETTER CHE WITH DESCENDER;CYRILLIC SMALL LETTER CHE WITH DESCENDER
CYRILLIC CAPITAL LETTER CHE WITH VERTICAL STROKE;CYRILLIC SMALL LETTER CHE WITH VERTICAL STROKE
CYRILLIC CAPITAL LETTER SHHA;CYRILLIC SMALL LETTER SHHA;CYRILLIC CAPITAL LETTER ABKHASIAN CHE
CYRILLIC SMALL LETTER ABKHASIAN CHE;CYRILLIC CAPITAL LETTER ABKHASIAN CHE WITH DESCENDER
CYRILLIC SMALL LETTER ABKHASIAN CHE WITH DESCENDER;CYRILLIC LETTER PALOCHKA
CYRILLIC CAPITAL LETTER ZHE WITH BREVE;CYRILLIC SMALL LETTER ZHE WITH BREVE
CYRILLIC CAPITAL LETTER KA WITH HOOK;CYRILLIC SMALL LETTER KA WITH HOOK
CYRILLIC CAPITAL LETTER EL WITH TAIL;CYRILLIC SMALL LETTER EL WITH TAIL
CYRILLIC CAPITAL LETTER EN WITH HOOK;CYRILLIC SMALL LETTER EN WITH HOOK
CYRILLIC CAPITAL LETTER EN WITH TAIL;CYRILLIC SMALL LETTER EN WITH TAIL
CYRILLIC CAPITAL LETTER KHAKASSIAN CHE;CYRILLIC SMALL LETTER KHAKASSIAN CHE
CYRILLIC CAPITAL LETTER EM WITH TAIL;CYRILLIC SMALL LETTER EM WITH TAIL
CYRILLIC SMALL LETTER PALOCHKA;CYRILLIC CAPITAL LETTER A WITH BREVE
CYRILLIC SMALL LETTER A WITH BREVE;CYRILLIC CAPITAL LETTER A WITH DIAERESIS
CYRILLIC SMALL LETTER A WITH DIAERESIS;CYRILLIC CAPITAL LIGATURE A IE
CYRILLIC SMALL LIGATURE A IE;CYRILLIC CAPITAL LETTER IE WITH BREVE
CYRILLIC SMALL LETTER IE WITH BREVE;CYRILLIC CAPITAL LETTER SCHWA;CYRILLIC SMALL LETTER SCHWA
CYRILLIC CAPITAL LETTER SCHWA WITH DIAERESIS;CYRILLIC SMALL LETTER SCHWA WITH DIAERESIS
CYRILLIC CAPITAL LETTER ZHE WITH DIAERESIS;CYRILLIC SMALL LETTER ZHE WITH DIAERESIS
CYRILLIC CAPITAL LETTER ZE WITH DIAERESIS;CYRILLIC SMALL LETTER ZE WITH DIAERESIS
CYRILLIC CAPITAL LETTER ABKHASIAN DZE;CYRILLIC SMALL LETTER ABKHASIAN DZE
CYRILLIC CAPITAL LETTER I WITH MACRON;CYRILLIC SMALL LETTER I WITH MACRON
CYRILLIC CAPITAL LETTER I WITH DIAERESIS;CYRILLIC SMALL LETTER I WITH DIAERESIS
CYRILLIC CAPITAL LETTER O WITH DIAERESIS;CYRILLIC SMALL LETTER O WITH DIAERESIS
CYRILLIC CAPITAL LETTER BARRED O;CYRILLIC SMALL LETTER BARRED O
CYRILLIC CAPITAL LETTER BARRED O WITH DIAERESIS;CYRILLIC SMALL LETTER BARRED O WITH DIAERESIS
CYRILLIC CAPITAL LETTER E WITH DIAERESIS;CYRILLIC SMALL LETTER E WITH DIAERESIS
CYRILLIC CAPITAL LETTER U WITH MACRON;CYRILLIC SMALL LETTER U WITH MACRON
CYRILLIC CAPITAL LETTER U WITH DIAERESIS;CYRILLIC SMALL LETTER U WITH DIAERESIS
CYRILLIC CAPITAL LETTER U WITH DOUBLE ACUTE;CYRILLIC SMALL LETTER U WITH DOUBLE ACUTE
CYRILLIC CAPITAL LETTER CHE WITH DIAERESIS;CYRILLIC SMALL LETTER CHE WITH DIAERESIS
CYRILLIC CAPITAL LETTER GHE WITH DESCENDER;CYRILLIC SMALL LETTER GHE WITH DESCENDER
CYRILLIC CAPITAL LETTER YERU WITH DIAERESIS;CYRILLIC SMALL LETTER YERU WITH DIAERESIS
CYRILLIC CAPITAL LETTER GHE WITH STROKE AND HOOK;CYRILLIC SMALL LETTER GHE WITH STROKE AND HOOK
CYRILLIC CAPITAL LETTER HA WITH HOOK;CYRILLIC SMALL LETTER HA WITH HOOK
CYRILLIC CAPITAL LETTER HA WITH STROKE;CYRILLIC SMALL LETTER HA WITH STROKE
CYRILLIC CAPITAL LETTER KOMI DE;CYRILLIC SMALL LETTER KOMI DE;CYRILLIC CAPITAL LETTER KOMI DJE
CYRILLIC SMALL LETTER KOMI DJE;CYRILLIC CAPITAL LETTER KOMI ZJE;CYRILLIC SMALL LETTER KOMI ZJE
CYRILLIC CAPITAL LETTER KOMI DZJE;CYRILLIC SMALL LETTER KOMI DZJE
CYRILLIC CAPITAL LETTER KOMI LJE;CYRILLIC SMALL LETTER KOMI LJE;CYRILLIC CAPITAL LETTER KOMI NJE
CYRILLIC SMALL LETTER KOMI NJE;CYRILLIC CAPITAL LETTER KOMI SJE;CYRILLIC SMALL LETTER KOMI SJE
CYRILLIC CAPITAL LETTER KOMI TJE;CYRILLIC SMALL LETTER KOMI TJE
CYRILLIC CAPITAL LETTER REVERSED ZE;CYRILLIC SMALL LETTER REVERSED ZE
CYRILLIC CAPITAL LETTER EL WITH HOOK;CYRILLIC SMALL LETTER EL WITH HOOK
CYRILLIC CAPITAL LETTER LHA;CYRILLIC SMALL LETTER LHA;CYRILLIC CAPITAL LETTER RHA
CYRILLIC SMALL LETTER RHA;CYRILLIC CAPITAL LETTER YAE;CYRILLIC SMALL LETTER YAE
CYRILLIC CAPITAL LETTER QA;CYRILLIC SMALL LETTER QA;CYRILLIC CAPITAL LETTER WE
CYRILLIC SMALL LETTER WE;CYRILLIC CAPITAL LETTER ALEUT KA;CYRILLIC SMALL LETTER ALEUT KA
CYRILLIC CAPITAL LETTER EL WITH MIDDLE HOOK;CYRILLIC SMALL LETTER EL WITH MIDDLE HOOK
CYRILLIC CAPITAL LETTER EN WITH MIDDLE HOOK;CYRILLIC SMALL LETTER EN WITH MIDDLE HOOK
CYRILLIC CAPITAL LETTER PE WITH DESCENDER;CYRILLIC SMALL LETTER PE WITH DESCENDER
CYRILLIC CAPITAL LETTER SHHA WITH DESCENDER;CYRILLIC SMALL LETTER SHHA WITH DESCENDER
CYRILLIC CAPITAL LETTER EN WITH LEFT HOOK;CYRILLIC SMALL LETTER EN WITH LEFT HOOK
CYRILLIC CAPITAL LETTER DZZHE;CYRILLIC SMALL LETTER DZZHE;CYRILLIC CAPITAL LETTER DCHE
CYRILLIC SMALL LETTER DCHE;CYRILLIC CAPITAL LETTER EL WITH DESCENDER
CYRILLIC SMALL LETTER EL WITH DESCENDER"),
  (0x531, "ARMENIAN CAPITAL LETTER AYB;ARMENIAN CAPITAL LETTER BEN;ARMENIAN CAPITAL LETTER GIM
ARMENIAN CAPITAL LETTER DA;ARMENIAN CAPITAL LETTER ECH;ARMENIAN CAPITAL LETTER ZA
ARMENIAN CAPITAL LETTER EH;ARMENIAN CAPITAL LETTER ET;ARMENIAN CAPITAL LETTER TO
ARMENIAN CAPITAL LETTER ZHE;ARMENIAN CAPITAL LETTER INI;ARMENIAN CAPITAL LETTER LIWN
ARMENIAN CAPITAL LETTER XEH;ARMENIAN CAPITAL LETTER CA;ARMENIAN CAPITAL LETTER KEN
ARMENIAN CAPITAL LETTER HO;ARMENIAN CAPITAL LETTER JA;ARMENIAN CAPITAL LETTER GHAD
ARMENIAN CAPITAL LETTER CHEH;ARMENIAN CAPITAL LETTER MEN;ARMENIAN CAPITAL LETTER YI
ARMENIAN CAPITAL LETTER NOW;ARMENIAN CAPITAL LETTER SHA;ARMENIAN CAPITAL LETTER VO
ARMENIAN CAPITAL LETTER CHA;ARMENIAN CAPITAL LETTER PEH;ARMENIAN CAPITAL LETTER JHEH
ARMENIAN CAPITAL LETTER RA;ARMENIAN CAPITAL LETTER SEH;ARMENIAN CAPITAL LETTER VEW
ARMENIAN CAPITAL LETTER TIWN;ARMENIAN CAPITAL LETTER REH;ARMENIAN CAPITAL LETTER CO
ARMENIAN CAPITAL LETTER YIWN;ARMENIAN CAPITAL LETTER PIWR;ARMENIAN CAPITAL LETTER KEH
ARMENIAN CAPITAL LETTER OH;ARMENIAN CAPITAL LETTER FEH"),
  (0x559, "ARMENIAN MODIFIER LETTER LEFT HALF RING;ARMENIAN APOSTROPHE;ARMENIAN EMPHASIS MARK
ARMENIAN EXCLAMATION MARK;ARMENIAN COMMA;ARMENIAN QUESTION MARK;ARMENIAN ABBREVIATION MARK
ARMENIAN SMALL LETTER TURNED AYB;ARMENIAN SMALL LETTER AYB;ARMENIAN SMALL LETTER BEN
ARMENIAN SMALL LETTER GIM;ARMENIAN SMALL LETTER DA;ARMENIAN SMALL LETTER ECH
ARMENIAN SMALL LETTER ZA;ARMENIAN SMALL LETTER EH;ARMENIAN SMALL LETTER ET
ARMENIAN SMALL LETTER TO;ARMENIAN SMALL LETTER ZHE;ARMENIAN SMALL LETTER INI
ARMENIAN SMALL LETTER LIWN;ARMENIAN SMALL LETTER XEH;ARMENIAN SMALL LETTER CA
ARMENIAN SMALL LETTER KEN;ARMENIAN SMALL LETTER HO;ARMENIAN SMALL LETTER JA
ARMENIAN SMALL LETTER GHAD;ARMENIAN SMALL LETTER CHEH;ARMENIAN SMALL LETTER MEN
ARMENIAN SMALL LETTER YI;ARMENIAN SMALL LETTER NOW;ARMENIAN SMALL LETTER SHA
ARMENIAN SMALL LETTER VO;ARMENIAN SMALL LETTER CHA;ARMENIAN SMALL LETTER PEH
ARMENIAN SMALL LETTER JHEH;ARMENIAN SMALL LETTER RA;ARMENIAN SMALL LETTER SEH
ARMENIAN SMALL LETTER VEW;ARMENIAN SMALL LETTER TIWN;ARMENIAN SMALL LETTER REH
ARMENIAN SMALL LETTER CO;ARMENIAN SMALL LETTER YIWN;ARMENIAN SMALL LETTER PIWR
ARMENIAN SMALL LETTER KEH;ARMENIAN SMALL LETTER OH;ARMENIAN SMALL LETTER FEH
ARMENIAN SMALL LIGATURE ECH YIWN;ARMENIAN SMALL LETTER YI WITH STROKE;ARMENIAN FULL STOP
ARMENIAN HYPHEN"),
  (0x58d, "RIGHT-FACING ARMENIAN ETERNITY SIGN;LEFT-FACING ARMENIAN ETERNITY SIGN
ARMENIAN DRAM SIGN"),
  (0x591, "HEBREW ACCENT ETNAHTA;HEBREW ACCENT SEGOL;HEBREW ACCENT SHALSHELET
HEBREW ACCENT ZAQEF QATAN;HEBREW ACCENT ZAQEF GADOL;HEBREW ACCENT TIPEHA;HEBREW ACCENT REVIA
HEBREW ACCENT ZARQA;HEBREW ACCENT PASHTA;HEBREW ACCENT YETIV;HEBREW ACCENT TEVIR
HEBREW ACCENT GERESH;HEBREW ACCENT GERESH MUQDAM;HEBREW ACCENT GERSHAYIM
HEBREW ACCENT QARNEY PARA;HEBREW ACCENT TELISHA GEDOLA;HEBREW ACCENT PAZER
HEBREW ACCENT ATNAH HAFUKH;HEBREW ACCENT MUNAH;HEBREW ACCENT MAHAPAKH;HEBREW ACCENT MERKHA
HEBREW ACCENT MERKHA KEFULA;HEBREW ACCENT DARGA;HEBREW ACCENT QADMA;HEBREW ACCENT TELISHA QETANA
HEBREW ACCENT YERAH BEN YOMO;HEBREW ACCENT OLE;HEBREW ACCENT ILUY;HEBREW ACCENT DEHI
HEBREW ACCENT ZINOR;HEBREW MARK MASORA CIRCLE;HEBREW POINT SHEVA;HEBREW POINT HATAF SEGOL
HEBREW POINT HATAF PATAH;HEBREW POINT HATAF QAMATS;HEBREW POINT HIRIQ;HEBREW POINT TSERE
HEBREW POINT SEGOL;HEBREW POINT PATAH;HEBREW POINT QAMATS;HEBREW POINT HOLAM
HEBREW POINT HOLAM HASER FOR VAV;HEBREW POINT QUBUTS;HEBREW POINT DAGESH OR MAPIQ
HEBREW POINT METEG;HEBREW PUNCTUATION MAQAF;HEBREW POINT RAFE;HEBREW PUNCTUATION PASEQ
HEBREW POINT SHIN DOT;HEBREW POINT SIN DOT;HEBREW PUNCTUATION SOF PASUQ;HEBREW MARK UPPER DOT
HEBREW MARK LOWER DOT;HEBREW PUNCTUATION NUN HAFUKHA;HEBREW POINT QAMATS QATAN"),
  (0x5d0, "HEBREW LETTER ALEF;HEBREW LETTER BET;HEBREW LETTER GIMEL;HEBREW LETTER DALET
HEBREW LETTER HE;HEBREW LETTER VAV;HEBREW LETTER ZAYIN;HEBREW LETTER HET;HEBREW LETTER TET
HEBREW LETTER YOD;HEBREW LETTER FINAL KAF;HEBREW LETTER KAF;HEBREW LETTER LAMED
HEBREW LETTER FINAL MEM;HEBREW LETTER MEM;HEBREW LETTER FINAL NUN;HEBREW LETTER NUN
HEBREW LETTER SAMEKH;HEBREW LETTER AYIN;HEBREW LETTER FINAL PE;HEBREW LETTER PE
HEBREW LETTER FINAL TSADI;HEBREW LETTER TSADI;HEBREW LETTER QOF;HEBREW LETTER RESH
HEBREW LETTER SHIN;HEBREW LETTER TAV"),
  (0x5ef, "HEBREW YOD TRIANGLE;HEBREW LIGATURE YIDDISH DOUBLE VAV;HEBREW LIGATURE YIDDISH VAV YOD
HEBREW LIGATURE YIDDISH DOUBLE YOD;HEBREW PUNCTUATION GERESH;HEBREW PUNCTUATION GERSHAYIM"),
  (0x600, "ARABIC NUMBER SIGN;ARABIC SIGN SANAH;ARABIC FOOTNOTE MARKER;ARABIC SIGN SAFHA
ARABIC SIGN SAMVAT;ARABIC NUMBER MARK ABOVE;ARABIC-INDIC CUBE ROOT;ARABIC-INDIC FOURTH ROOT
ARABIC RAY;ARABIC-INDIC PER MILLE SIGN;ARABIC-INDIC PER TEN THOUSAND SIGN;AFGHANI SIGN
ARABIC COMMA;ARABIC DATE SEPARATOR;ARABIC POETIC VERSE SIGN;ARABIC SIGN MISRA
ARABIC SIGN SALLALLAHOU ALAYHE WASSALLAM;ARABIC SIGN ALAYHE ASSALLAM
ARABIC SIGN RAHMATULLAH ALAYHE;ARABIC SIGN RADI ALLAHOU ANHU;ARABIC SIGN TAKHALLUS
ARABIC SMALL HIGH TAH;ARABIC SMALL HIGH LIGATURE ALEF WITH LAM WITH YEH;ARABIC SMALL HIGH ZAIN
ARABIC SMALL FATHA;ARABIC SMALL DAMMA;ARABIC SMALL KASRA;ARABIC SEMICOLON;ARABIC LETTER MARK
ARABIC END OF TEXT MARK;ARABIC TRIPLE DOT PUNCTUATION MARK;ARABIC QUESTION MARK
ARABIC LETTER KASHMIRI YEH;ARABIC LETTER HAMZA;ARABIC LETTER ALEF WITH MADDA ABOVE
ARABIC LETTER ALEF WITH HAMZA ABOVE;ARABIC LETTER WAW WITH HAMZA ABOVE
ARABIC LETTER ALEF WITH HAMZA BELOW;ARABIC LETTER YEH WITH HAMZA ABOVE;ARABIC LETTER ALEF
ARABIC LETTER BEH;ARABIC LETTER TEH MARBUTA;ARABIC LETTER TEH;ARABIC LETTER THEH
ARABIC LETTER JEEM;ARABIC LETTER HAH;ARABIC LETTER KHAH;ARABIC LETTER DAL;ARABIC LETTER THAL
ARABIC LETTER REH;ARABIC LETTER ZAIN;ARABIC LETTER SEEN;ARABIC LETTER SHEEN;ARABIC LETTER SAD
ARABIC LETTER DAD;ARABIC LETTER TAH;ARABIC LETTER ZAH;ARABIC LETTER AIN;ARABIC LETTER GHAIN
ARABIC LETTER KEHEH WITH TWO DOTS ABOVE;ARABIC LETTER KEHEH WITH THREE DOTS BELOW
ARABIC LETTER FARSI YEH WITH INVERTED V;ARABIC LETTER FARSI YEH WITH TWO DOTS ABOVE
ARABIC LETTER FARSI YEH WITH THREE DOTS ABOVE;ARABIC TATWEEL;ARABIC LETTER FEH;ARABIC LETTER QAF
ARABIC LETTER KAF;ARABIC LETTER LAM;ARABIC LETTER MEEM;ARABIC LETTER NOON;ARABIC LETTER HEH
ARABIC LETTER WAW;ARABIC LETTER ALEF MAKSURA;ARABIC LETTER YEH;ARABIC FATHATAN;ARABIC DAMMATAN
ARABIC KASRATAN;ARABIC FATHA;ARABIC DAMMA;ARABIC KASRA;ARABIC SHADDA;ARABIC SUKUN
ARABIC MADDAH ABOVE;ARABIC HAMZA ABOVE;ARABIC HAMZA BELOW;ARABIC SUBSCRIPT ALEF
ARABIC INVERTED DAMMA;ARABIC MARK NOON GHUNNA;ARABIC ZWARAKAY;ARABIC VOWEL SIGN SMALL V ABOVE
ARABIC VOWEL SIGN INVERTED SMALL V ABOVE;ARABIC VOWEL SIGN DOT BELOW;ARABIC REVERSED DAMMA
ARABIC FATHA WITH TWO DOTS;ARABIC WAVY HAMZA BELOW;ARABIC-INDIC DIGIT ZERO;ARABIC-INDIC DIGIT ONE
ARABIC-INDIC DIGIT TWO;ARABIC-INDIC DIGIT THREE;ARABIC-INDIC DIGIT FOUR;ARABIC-INDIC DIGIT FIVE
ARABIC-INDIC DIGIT SIX;ARABIC-INDIC DIGIT SEVEN;ARABIC-INDIC DIGIT EIGHT;ARABIC-INDIC DIGIT NINE
ARABIC PERCENT SIGN;ARABIC DECIMAL SEPARATOR;ARABIC THOUSANDS SEPARATOR;ARABIC FIVE POINTED STAR
ARABIC LETTER DOTLESS BEH;ARABIC LETTER DOTLESS QAF;ARABIC LETTER SUPERSCRIPT ALEF
ARABIC LETTER ALEF WASLA;ARABIC LETTER ALEF WITH WAVY HAMZA ABOVE
ARABIC LETTER ALEF WITH WAVY HAMZA BELOW;ARABIC LETTER HIGH HAMZA;ARABIC LETTER HIGH HAMZA ALEF
ARABIC LETTER HIGH HAMZA WAW;ARABIC LETTER U WITH HAMZA ABOVE;ARABIC LETTER HIGH HAMZA YEH
ARABIC LETTER TTEH;ARABIC LETTER TTEHEH;ARABIC LETTER BEEH;ARABIC LETTER TEH WITH RING
ARABIC LETTER TEH WITH THREE DOTS ABOVE DOWNWARDS;ARABIC LETTER PEH;ARABIC LETTER TEHEH
ARABIC LETTER BEHEH;ARABIC LETTER HAH WITH HAMZA ABOVE
ARABIC LETTER HAH WITH TWO DOTS VERTICAL ABOVE;ARABIC LETTER NYEH;ARABIC LETTER DYEH
ARABIC LETTER HAH WITH THREE DOTS ABOVE;ARABIC LETTER TCHEH;ARABIC LETTER TCHEHEH
ARABIC LETTER DDAL;ARABIC LETTER DAL WITH RING;ARABIC LETTER DAL WITH DOT BELOW
ARABIC LETTER DAL WITH DOT BELOW AND SMALL TAH;ARABIC LETTER DAHAL;ARABIC LETTER DDAHAL
ARABIC LETTER DUL;ARABIC LETTER DAL WITH THREE DOTS ABOVE DOWNWARDS
ARABIC LETTER DAL WITH FOUR DOTS ABOVE;ARABIC LETTER RREH;ARABIC LETTER REH WITH SMALL V
ARABIC LETTER REH WITH RING;ARABIC LETTER REH WITH DOT BELOW;ARABIC LETTER REH WITH SMALL V BELOW
ARABIC LETTER REH WITH DOT BELOW AND DOT ABOVE;ARABIC LETTER REH WITH TWO DOTS ABOVE
ARABIC LETTER JEH;ARABIC LETTER REH WITH FOUR DOTS ABOVE
ARABIC LETTER SEEN WITH DOT BELOW AND DOT ABOVE;ARABIC LETTER SEEN WITH THREE DOTS BELOW
ARABIC LETTER SEEN WITH THREE DOTS BELOW AND THREE DOTS ABOVE
ARABIC LETTER SAD WITH TWO DOTS BELOW;ARABIC LETTER SAD WITH THREE DOTS ABOVE
ARABIC LETTER TAH WITH THREE DOTS ABOVE;ARABIC LETTER AIN WITH THREE DOTS ABOVE
ARABIC LETTER DOTLESS FEH;ARABIC LETTER FEH WITH DOT MOVED BELOW;ARABIC LETTER FEH WITH DOT BELOW
ARABIC LETTER VEH;ARABIC LETTER FEH WITH THREE DOTS BELOW;ARABIC LETTER PEHEH
ARABIC LETTER QAF WITH DOT ABOVE;ARABIC LETTER QAF WITH THREE DOTS ABOVE;ARABIC LETTER KEHEH
ARABIC LETTER SWASH KAF;ARABIC LETTER KAF WITH RING;ARABIC LETTER KAF WITH DOT ABOVE
ARABIC LETTER NG;ARABIC LETTER KAF WITH THREE DOTS BELOW;ARABIC LETTER GAF
ARABIC LETTER GAF WITH RING;ARABIC LETTER NGOEH;ARABIC LETTER GAF WITH TWO DOTS BELOW
ARABIC LETTER GUEH;ARABIC LETTER GAF WITH THREE DOTS ABOVE;ARABIC LETTER LAM WITH SMALL V
ARABIC LETTER LAM WITH DOT ABOVE;ARABIC LETTER LAM WITH THREE DOTS ABOVE
ARABIC LETTER LAM WITH THREE DOTS BELOW;ARABIC LETTER NOON WITH DOT BELOW
ARABIC LETTER NOON GHUNNA;ARABIC LETTER RNOON;ARABIC LETTER NOON WITH RING
ARABIC LETTER NOON WITH THREE DOTS ABOVE;ARABIC LETTER HEH DOACHASHMEE
ARABIC LETTER TCHEH WITH DOT ABOVE;ARABIC LETTER HEH WITH YEH ABOVE;ARABIC LETTER HEH GOAL
ARABIC LETTER HEH GOAL WITH HAMZA ABOVE;ARABIC LETTER TEH MARBUTA GOAL
ARABIC LETTER WAW WITH RING;ARABIC LETTER KIRGHIZ OE;ARABIC LETTER OE;ARABIC LETTER U
ARABIC LETTER YU;ARABIC LETTER KIRGHIZ YU;ARABIC LETTER WAW WITH TWO DOTS ABOVE;ARABIC LETTER VE
ARABIC LETTER FARSI YEH;ARABIC LETTER YEH WITH TAIL;ARABIC LETTER YEH WITH SMALL V
ARABIC LETTER WAW WITH DOT ABOVE;ARABIC LETTER E;ARABIC LETTER YEH WITH THREE DOTS BELOW
ARABIC LETTER YEH BARREE;ARABIC LETTER YEH BARREE WITH HAMZA ABOVE;ARABIC FULL STOP
ARABIC LETTER AE;ARABIC SMALL HIGH LIGATURE SAD WITH LAM WITH ALEF MAKSURA
ARABIC SMALL HIGH LIGATURE QAF WITH LAM WITH ALEF MAKSURA;ARABIC SMALL HIGH MEEM INITIAL FORM
ARABIC SMALL HIGH LAM ALEF;ARABIC SMALL HIGH JEEM;ARABIC SMALL HIGH THREE DOTS
ARABIC SMALL HIGH SEEN;ARABIC END OF AYAH;ARABIC START OF RUB EL HIZB
ARABIC SMALL HIGH ROUNDED ZERO;ARABIC SMALL HIGH UPRIGHT RECTANGULAR ZERO
ARABIC SMALL HIGH DOTLESS HEAD OF KHAH;ARABIC SMALL HIGH MEEM ISOLATED FORM;ARABIC SMALL LOW SEEN
ARABIC SMALL HIGH MADDA;ARABIC SMALL WAW;ARABIC SMALL YEH;ARABIC SMALL HIGH YEH
ARABIC SMALL HIGH NOON;ARABIC PLACE OF SAJDAH;ARABIC EMPTY CENTRE LOW STOP
ARABIC EMPTY CENTRE HIGH STOP;ARABIC ROUNDED HIGH STOP WITH FILLED CENTRE;ARABIC SMALL LOW MEEM
ARABIC LETTER DAL WITH INVERTED V;ARABIC LETTER REH WITH INVERTED V
EXTENDED ARABIC-INDIC DIGIT ZERO;EXTENDED ARABIC-INDIC DIGIT ONE;EXTENDED ARABIC-INDIC DIGIT TWO
EXTENDED ARABIC-INDIC DIGIT THREE;EXTENDED ARABIC-INDIC DIGIT FOUR
EXTENDED ARABIC-INDIC DIGIT FIVE;EXTENDED ARABIC-INDIC DIGIT SIX
EXTENDED ARABIC-INDIC DIGIT SEVEN;EXTENDED ARABIC-INDIC DIGIT EIGHT
EXTENDED ARABIC-INDIC DIGIT NINE;ARABIC LETTER SHEEN WITH DOT BELOW
ARABIC LETTER DAD WITH DOT BELOW;ARABIC LETTER GHAIN WITH DOT BELOW;ARABIC SIGN SINDHI AMPERSAND
ARABIC SIGN SINDHI POSTPOSITION MEN;ARABIC LETTER HEH WITH INVERTED V;SYRIAC END OF PARAGRAPH
SYRIAC SUPRALINEAR FULL STOP;SYRIAC SUBLINEAR FULL STOP;SYRIAC SUPRALINEAR COLON
SYRIAC SUBLINEAR COLON;SYRIAC HORIZONTAL COLON;SYRIAC COLON SKEWED LEFT;SYRIAC COLON SKEWED RIGHT
SYRIAC SUPRALINEAR COLON SKEWED LEFT;SYRIAC SUBLINEAR COLON SKEWED RIGHT;SYRIAC CONTRACTION
SYRIAC HARKLEAN OBELUS;SYRIAC HARKLEAN METOBELUS;SYRIAC HARKLEAN ASTERISCUS"),
  (0x70f, "SYRIAC ABBREVIATION MARK;SYRIAC LETTER ALAPH;SYRIAC LETTER SUPERSCRIPT ALAPH
SYRIAC LETTER BETH;SYRIAC LETTER GAMAL;SYRIAC LETTER GAMAL GARSHUNI;SYRIAC LETTER DALATH
SYRIAC LETTER DOTLESS DALATH RISH;SYRIAC LETTER HE;SYRIAC LETTER WAW;SYRIAC LETTER ZAIN
SYRIAC LETTER HETH;SYRIAC LETTER TETH;SYRIAC LETTER TETH GARSHUNI;SYRIAC LETTER YUDH
SYRIAC LETTER YUDH HE;SYRIAC LETTER KAPH;SYRIAC LETTER LAMADH;SYRIAC LETTER MIM;SYRIAC LETTER NUN
SYRIAC LETTER SEMKATH;SYRIAC LETTER FINAL SEMKATH;SYRIAC LETTER E;SYRIAC LETTER PE
SYRIAC LETTER REVERSED PE;SYRIAC LETTER SADHE;SYRIAC LETTER QAPH;SYRIAC LETTER RISH
SYRIAC LETTER SHIN;SYRIAC LETTER TAW;SYRIAC LETTER PERSIAN BHETH;SYRIAC LETTER PERSIAN GHAMAL
SYRIAC LETTER PERSIAN DHALATH;SYRIAC PTHAHA ABOVE;SYRIAC PTHAHA BELOW;SYRIAC PTHAHA DOTTED
SYRIAC ZQAPHA ABOVE;SYRIAC ZQAPHA BELOW;SYRIAC ZQAPHA DOTTED;SYRIAC RBASA ABOVE
SYRIAC RBASA BELOW;SYRIAC DOTTED ZLAMA HORIZONTAL;SYRIAC DOTTED ZLAMA ANGULAR;SYRIAC HBASA ABOVE
SYRIAC HBASA BELOW;SYRIAC HBASA-ESASA DOTTED;SYRIAC ESASA ABOVE;SYRIAC ESASA BELOW;SYRIAC RWAHA
SYRIAC FEMININE DOT;SYRIAC QUSHSHAYA;SYRIAC RUKKAKHA;SYRIAC TWO VERTICAL DOTS ABOVE
SYRIAC TWO VERTICAL DOTS BELOW;SYRIAC THREE DOTS ABOVE;SYRIAC THREE DOTS BELOW
SYRIAC OBLIQUE LINE ABOVE;SYRIAC OBLIQUE LINE BELOW;SYRIAC MUSIC;SYRIAC BARREKH"),
  (0x74d, "SYRIAC LETTER SOGDIAN ZHAIN;SYRIAC LETTER SOGDIAN KHAPH;SYRIAC LETTER SOGDIAN FE
ARABIC LETTER BEH WITH THREE DOTS HORIZONTALLY BELOW
ARABIC LETTER BEH WITH DOT BELOW AND THREE DOTS ABOVE
ARABIC LETTER BEH WITH THREE DOTS POINTING UPWARDS BELOW
ARABIC LETTER BEH WITH THREE DOTS POINTING UPWARDS BELOW AND TWO DOTS ABOVE
ARABIC LETTER BEH WITH TWO DOTS BELOW AND DOT ABOVE;ARABIC LETTER BEH WITH INVERTED SMALL V BELOW
ARABIC LETTER BEH WITH SMALL V;ARABIC LETTER HAH WITH TWO DOTS ABOVE
ARABIC LETTER HAH WITH THREE DOTS POINTING UPWARDS BELOW
ARABIC LETTER DAL WITH TWO DOTS VERTICALLY BELOW AND SMALL TAH
ARABIC LETTER DAL WITH INVERTED SMALL V BELOW;ARABIC LETTER REH WITH STROKE
ARABIC LETTER SEEN WITH FOUR DOTS ABOVE;ARABIC LETTER AIN WITH TWO DOTS ABOVE
ARABIC LETTER AIN WITH THREE DOTS POINTING DOWNWARDS ABOVE
ARABIC LETTER AIN WITH TWO DOTS VERTICALLY ABOVE;ARABIC LETTER FEH WITH TWO DOTS BELOW
ARABIC LETTER FEH WITH THREE DOTS POINTING UPWARDS BELOW;ARABIC LETTER KEHEH WITH DOT ABOVE
ARABIC LETTER KEHEH WITH THREE DOTS ABOVE
ARABIC LETTER KEHEH WITH THREE DOTS POINTING UPWARDS BELOW;ARABIC LETTER MEEM WITH DOT ABOVE
ARABIC LETTER MEEM WITH DOT BELOW;ARABIC LETTER NOON WITH TWO DOTS BELOW
ARABIC LETTER NOON WITH SMALL TAH;ARABIC LETTER NOON WITH SMALL V;ARABIC LETTER LAM WITH BAR
ARABIC LETTER REH WITH TWO DOTS VERTICALLY ABOVE;ARABIC LETTER REH WITH HAMZA ABOVE
ARABIC LETTER SEEN WITH TWO DOTS VERTICALLY ABOVE
ARABIC LETTER HAH WITH SMALL ARABIC LETTER TAH BELOW
ARABIC LETTER HAH WITH SMALL ARABIC LETTER TAH AND TWO DOTS
ARABIC LETTER SEEN WITH SMALL ARABIC LETTER TAH AND TWO DOTS
ARABIC LETTER REH WITH SMALL ARABIC LETTER TAH AND TWO DOTS
ARABIC LETTER HAH WITH SMALL ARABIC LETTER TAH ABOVE
ARABIC LETTER ALEF WITH EXTENDED ARABIC-INDIC DIGIT TWO ABOVE
ARABIC LETTER ALEF WITH EXTENDED ARABIC-INDIC DIGIT THREE ABOVE
ARABIC LETTER FARSI YEH WITH EXTENDED ARABIC-INDIC DIGIT TWO ABOVE
ARABIC LETTER FARSI YEH WITH EXTENDED ARABIC-INDIC DIGIT THREE ABOVE
ARABIC LETTER FARSI YEH WITH EXTENDED ARABIC-INDIC DIGIT FOUR BELOW
ARABIC LETTER WAW WITH EXTENDED ARABIC-INDIC DIGIT TWO ABOVE
ARABIC LETTER WAW WITH EXTENDED ARABIC-INDIC DIGIT THREE ABOVE
ARABIC LETTER YEH BARREE WITH EXTENDED ARABIC-INDIC DIGIT TWO ABOVE
ARABIC LETTER YEH BARREE WITH EXTENDED ARABIC-INDIC DIGIT THREE ABOVE
ARABIC LETTER HAH WITH EXTENDED ARABIC-INDIC DIGIT FOUR BELOW
ARABIC LETTER SEEN WITH EXTENDED ARABIC-INDIC DIGIT FOUR ABOVE;ARABIC LETTER SEEN WITH INVERTED V
ARABIC LETTER KAF WITH TWO DOTS ABOVE;THAANA LETTER HAA;THAANA LETTER SHAVIYANI
THAANA LETTER NOONU;THAANA LETTER RAA;THAANA LETTER BAA;THAANA LETTER LHAVIYANI
THAANA LETTER KAAFU;THAANA LETTER ALIFU;THAANA LETTER VAAVU;THAANA LETTER MEEMU
THAANA LETTER FAAFU;THAANA LETTER DHAALU;THAANA LETTER THAA;THAANA LETTER LAAMU
THAANA LETTER GAAFU;THAANA LETTER GNAVIYANI;THAANA LETTER SEENU;THAANA LETTER DAVIYANI
THAANA LETTER ZAVIYANI;THAANA LETTER TAVIYANI;THAANA LETTER YAA;THAANA LETTER PAVIYANI
THAANA LETTER JAVIYANI;THAANA LETTER CHAVIYANI;THAANA LETTER TTAA;THAANA LETTER HHAA
THAANA LETTER KHAA;THAANA LETTER THAALU;THAANA LETTER ZAA;THAANA LETTER SHEENU
THAANA LETTER SAADHU;THAANA LETTER DAADHU;THAANA LETTER TO;THAANA LETTER ZO;THAANA LETTER AINU
THAANA LETTER GHAINU;THAANA LETTER QAAFU;THAANA LETTER WAAVU;THAANA ABAFILI;THAANA AABAAFILI
THAANA IBIFILI;THAANA EEBEEFILI;THAANA UBUFILI;THAANA OOBOOFILI;THAANA EBEFILI;THAANA EYBEYFILI
THAANA OBOFILI;THAANA OABOAFILI;THAANA SUKUN;THAANA LETTER NAA"),
  (0x7c0, "NKO DIGIT ZERO;NKO DIGIT ONE;NKO DIGIT TWO;NKO DIGIT THREE;NKO DIGIT FOUR
NKO DIGIT FIVE;NKO DIGIT SIX;NKO DIGIT SEVEN;NKO DIGIT EIGHT;NKO DIGIT NINE;NKO LETTER A
NKO LETTER EE;NKO LETTER I;NKO LETTER E;NKO LETTER U;NKO LETTER OO;NKO LETTER O
NKO LETTER DAGBASINNA;NKO LETTER N;NKO LETTER BA;NKO LETTER PA;NKO LETTER TA;NKO LETTER JA
NKO LETTER CHA;NKO LETTER DA;NKO LETTER RA;NKO LETTER RRA;NKO LETTER SA;NKO LETTER GBA
NKO LETTER FA;NKO LETTER KA;NKO LETTER LA;NKO LETTER NA WOLOSO;NKO LETTER MA;NKO LETTER NYA
NKO LETTER NA;NKO LETTER HA;NKO LETTER WA;NKO LETTER YA;NKO LETTER NYA WOLOSO;NKO LETTER JONA JA
NKO LETTER JONA CHA;NKO LETTER JONA RA;NKO COMBINING SHORT HIGH TONE;NKO COMBINING SHORT LOW TONE
NKO COMBINING SHORT RISING TONE;NKO COMBINING LONG DESCENDING TONE;NKO COMBINING LONG HIGH TONE
NKO COMBINING LONG LOW TONE;NKO COMBINING LONG RISING TONE;NKO COMBINING NASALIZATION MARK
NKO COMBINING DOUBLE DOT ABOVE;NKO HIGH TONE APOSTROPHE;NKO LOW TONE APOSTROPHE
NKO SYMBOL OO DENNEN;NKO SYMBOL GBAKURUNEN;NKO COMMA;NKO EXCLAMATION MARK;NKO LAJANYALAN"),
  (0x7fd, "NKO DANTAYALAN;NKO DOROME SIGN;NKO TAMAN SIGN;SAMARITAN LETTER ALAF
SAMARITAN LETTER BIT;SAMARITAN LETTER GAMAN;SAMARITAN LETTER DALAT;SAMARITAN LETTER IY
SAMARITAN LETTER BAA;SAMARITAN LETTER ZEN;SAMARITAN LETTER IT;SAMARITAN LETTER TIT
SAMARITAN LETTER YUT;SAMARITAN LETTER KAAF;SAMARITAN LETTER LABAT;SAMARITAN LETTER MIM
SAMARITAN LETTER NUN;SAMARITAN LETTER SINGAAT;SAMARITAN LETTER IN;SAMARITAN LETTER FI
SAMARITAN LETTER TSAADIY;SAMARITAN LETTER QUF;SAMARITAN LETTER RISH;SAMARITAN LETTER SHAN
SAMARITAN LETTER TAAF;SAMARITAN MARK IN;SAMARITAN MARK IN-ALAF;SAMARITAN MARK OCCLUSION
SAMARITAN MARK DAGESH;SAMARITAN MODIFIER LETTER EPENTHETIC YUT;SAMARITAN MARK EPENTHETIC YUT
SAMARITAN VOWEL SIGN LONG E;SAMARITAN VOWEL SIGN E;SAMARITAN VOWEL SIGN OVERLONG AA
SAMARITAN VOWEL SIGN LONG AA;SAMARITAN VOWEL SIGN AA;SAMARITAN VOWEL SIGN OVERLONG A
SAMARITAN VOWEL SIGN LONG A;SAMARITAN VOWEL SIGN A;SAMARITAN MODIFIER LETTER SHORT A
SAMARITAN VOWEL SIGN SHORT A;SAMARITAN VOWEL SIGN LONG U;SAMARITAN VOWEL SIGN U
SAMARITAN MODIFIER LETTER I;SAMARITAN VOWEL SIGN LONG I;SAMARITAN VOWEL SIGN I
SAMARITAN VOWEL SIGN O;SAMARITAN VOWEL SIGN SUKUN;SAMARITAN MARK NEQUDAA"),
  (0x830, "SAMARITAN PUNCTUATION NEQUDAA;SAMARITAN PUNCTUATION AFSAAQ;SAMARITAN PUNCTUATION ANGED
SAMARITAN PUNCTUATION BAU;SAMARITAN PUNCTUATION ATMAAU;SAMARITAN PUNCTUATION SHIYYAALAA
SAMARITAN ABBREVIATION MARK;SAMARITAN PUNCTUATION MELODIC QITSA;SAMARITAN PUNCTUATION ZIQAA
SAMARITAN PUNCTUATION QITSA;SAMARITAN PUNCTUATION ZAEF;SAMARITAN PUNCTUATION TURU
SAMARITAN PUNCTUATION ARKAANU;SAMARITAN PUNCTUATION SOF MASHFAAT;SAMARITAN PUNCTUATION ANNAAU"),
  (0x840, "MANDAIC LETTER HALQA;MANDAIC LETTER AB;MANDAIC LETTER AG;MANDAIC LETTER AD
MANDAIC LETTER AH;MANDAIC LETTER USHENNA;MANDAIC LETTER AZ;MANDAIC LETTER IT;MANDAIC LETTER ATT
MANDAIC LETTER AKSA;MANDAIC LETTER AK;MANDAIC LETTER AL;MANDAIC LETTER AM;MANDAIC LETTER AN
MANDAIC LETTER AS;MANDAIC LETTER IN;MANDAIC LETTER AP;MANDAIC LETTER ASZ;MANDAIC LETTER AQ
MANDAIC LETTER AR;MANDAIC LETTER ASH;MANDAIC LETTER AT;MANDAIC LETTER DUSHENNA;MANDAIC LETTER KAD
MANDAIC LETTER AIN;MANDAIC AFFRICATION MARK;MANDAIC VOCALIZATION MARK;MANDAIC GEMINATION MARK"),
  (0x85e, "MANDAIC PUNCTUATION"),
  (0x860, "SYRIAC LETTER MALAYALAM NGA;SYRIAC LETTER MALAYALAM JA;SYRIAC LETTER MALAYALAM NYA
SYRIAC LETTER MALAYALAM TTA;SYRIAC LETTER MALAYALAM NNA;SYRIAC LETTER MALAYALAM NNNA
SYRIAC LETTER MALAYALAM BHA;SYRIAC LETTER MALAYALAM RA;SYRIAC LETTER MALAYALAM LLA
SYRIAC LETTER MALAYALAM LLLA;SYRIAC LETTER MALAYALAM SSA"),
  (0x870, "ARABIC LETTER ALEF WITH ATTACHED FATHA
ARABIC LETTER ALEF WITH ATTACHED TOP RIGHT FATHA;ARABIC LETTER ALEF WITH RIGHT MIDDLE STROKE
ARABIC LETTER ALEF WITH LEFT MIDDLE STROKE;ARABIC LETTER ALEF WITH ATTACHED KASRA
ARABIC LETTER ALEF WITH ATTACHED BOTTOM RIGHT KASRA
ARABIC LETTER ALEF WITH ATTACHED ROUND DOT ABOVE;ARABIC LETTER ALEF WITH ATTACHED RIGHT ROUND DOT
ARABIC LETTER ALEF WITH ATTACHED LEFT ROUND DOT;ARABIC LETTER ALEF WITH ATTACHED ROUND DOT BELOW
ARABIC LETTER ALEF WITH DOT ABOVE;ARABIC LETTER ALEF WITH ATTACHED TOP RIGHT FATHA AND DOT ABOVE
ARABIC LETTER ALEF WITH RIGHT MIDDLE STROKE AND DOT ABOVE
ARABIC LETTER ALEF WITH ATTACHED BOTTOM RIGHT KASRA AND DOT ABOVE
ARABIC LETTER ALEF WITH ATTACHED TOP RIGHT FATHA AND LEFT RING
ARABIC LETTER ALEF WITH RIGHT MIDDLE STROKE AND LEFT RING
ARABIC LETTER ALEF WITH ATTACHED BOTTOM RIGHT KASRA AND LEFT RING
ARABIC LETTER ALEF WITH ATTACHED RIGHT HAMZA;ARABIC LETTER ALEF WITH ATTACHED LEFT HAMZA
ARABIC TATWEEL WITH OVERSTRUCK HAMZA;ARABIC TATWEEL WITH OVERSTRUCK WAW
ARABIC TATWEEL WITH TWO DOTS BELOW;ARABIC LETTER THIN YEH;ARABIC BASELINE ROUND DOT
ARABIC RAISED ROUND DOT;ARABIC LETTER NOON WITH INVERTED SMALL V
ARABIC LETTER HAH WITH INVERTED SMALL V BELOW;ARABIC LETTER TAH WITH DOT BELOW
ARABIC LETTER TAH WITH THREE DOTS BELOW;ARABIC LETTER KEHEH WITH TWO DOTS VERTICALLY BELOW
ARABIC VERTICAL TAIL"),
  (0x890, "ARABIC POUND MARK ABOVE;ARABIC PIASTRE MARK ABOVE"),
  (0x898, "ARABIC SMALL HIGH WORD AL-JUZ;ARABIC SMALL LOW WORD ISHMAAM
ARABIC SMALL LOW WORD IMAALA;ARABIC SMALL LOW WORD TASHEEL;ARABIC MADDA WAAJIB
ARABIC SUPERSCRIPT ALEF MOKHASSAS;ARABIC DOUBLED MADDA;ARABIC HALF MADDA OVER MADDA
ARABIC LETTER BEH WITH SMALL V BELOW;ARABIC LETTER BEH WITH HAMZA ABOVE
ARABIC LETTER JEEM WITH TWO DOTS ABOVE;ARABIC LETTER TAH WITH TWO DOTS ABOVE
ARABIC LETTER FEH WITH DOT BELOW AND THREE DOTS ABOVE;ARABIC LETTER QAF WITH DOT BELOW
ARABIC LETTER LAM WITH DOUBLE BAR;ARABIC LETTER MEEM WITH THREE DOTS ABOVE
ARABIC LETTER YEH WITH TWO DOTS BELOW AND HAMZA ABOVE
ARABIC LETTER YEH WITH TWO DOTS BELOW AND DOT ABOVE;ARABIC LETTER REH WITH LOOP
ARABIC LETTER WAW WITH DOT WITHIN;ARABIC LETTER ROHINGYA YEH;ARABIC LETTER LOW ALEF
ARABIC LETTER DAL WITH THREE DOTS BELOW;ARABIC LETTER SAD WITH THREE DOTS BELOW
ARABIC LETTER GAF WITH INVERTED STROKE;ARABIC LETTER STRAIGHT WAW
ARABIC LETTER ZAIN WITH INVERTED V ABOVE;ARABIC LETTER AIN WITH THREE DOTS BELOW
ARABIC LETTER KAF WITH DOT BELOW;ARABIC LETTER QAF WITH DOT BELOW AND NO DOTS ABOVE
ARABIC LETTER BEH WITH SMALL MEEM ABOVE;ARABIC LETTER PEH WITH SMALL MEEM ABOVE
ARABIC LETTER TEH WITH SMALL TEH ABOVE;ARABIC LETTER REH WITH SMALL NOON ABOVE
ARABIC LETTER YEH WITH TWO DOTS BELOW AND SMALL NOON ABOVE;ARABIC LETTER AFRICAN FEH
ARABIC LETTER AFRICAN QAF;ARABIC LETTER AFRICAN NOON;ARABIC LETTER PEH WITH SMALL V
ARABIC LETTER TEH WITH SMALL V;ARABIC LETTER TTEH WITH SMALL V;ARABIC LETTER TCHEH WITH SMALL V
ARABIC LETTER KEHEH WITH SMALL V;ARABIC LETTER GHAIN WITH THREE DOTS ABOVE
ARABIC LETTER AFRICAN QAF WITH THREE DOTS ABOVE;ARABIC LETTER JEEM WITH THREE DOTS ABOVE
ARABIC LETTER JEEM WITH THREE DOTS BELOW;ARABIC LETTER LAM WITH SMALL ARABIC LETTER TAH ABOVE
ARABIC LETTER GRAF;ARABIC SMALL FARSI YEH;ARABIC SMALL HIGH FARSI YEH
ARABIC SMALL HIGH YEH BARREE WITH TWO DOTS BELOW;ARABIC SMALL HIGH WORD SAH;ARABIC SMALL HIGH ZAH
ARABIC LARGE ROUND DOT ABOVE;ARABIC LARGE ROUND DOT BELOW;ARABIC SUKUN BELOW
ARABIC LARGE CIRCLE BELOW;ARABIC LARGE ROUND DOT INSIDE CIRCLE BELOW;ARABIC SMALL LOW WAW
ARABIC SMALL HIGH WORD AR-RUB;ARABIC SMALL HIGH SAD;ARABIC SMALL HIGH AIN;ARABIC SMALL HIGH QAF
ARABIC SMALL HIGH NOON WITH KASRA;ARABIC SMALL LOW NOON WITH KASRA
ARABIC SMALL HIGH WORD ATH-THALATHA;ARABIC SMALL HIGH WORD AS-SAJDA
ARABIC SMALL HIGH WORD AN-NISF;ARABIC SMALL HIGH WORD SAKTA;ARABIC SMALL HIGH WORD QIF
ARABIC SMALL HIGH WORD WAQFA;ARABIC SMALL HIGH FOOTNOTE MARKER;ARABIC SMALL HIGH SIGN SAFHA
ARABIC DISPUTED END OF AYAH;ARABIC TURNED DAMMA BELOW;ARABIC CURLY FATHA;ARABIC CURLY DAMMA
ARABIC CURLY KASRA;ARABIC CURLY FATHATAN;ARABIC CURLY DAMMATAN;ARABIC CURLY KASRATAN
ARABIC TONE ONE DOT ABOVE;ARABIC TONE TWO DOTS ABOVE;ARABIC TONE LOOP ABOVE
ARABIC TONE ONE DOT BELOW;ARABIC TONE TWO DOTS BELOW;ARABIC TONE LOOP BELOW;ARABIC OPEN FATHATAN
ARABIC OPEN DAMMATAN;ARABIC OPEN KASRATAN;ARABIC SMALL HIGH WAW;ARABIC FATHA WITH RING
ARABIC FATHA WITH DOT ABOVE;ARABIC KASRA WITH DOT BELOW;ARABIC LEFT ARROWHEAD ABOVE
ARABIC RIGHT ARROWHEAD ABOVE;ARABIC LEFT ARROWHEAD BELOW;ARABIC RIGHT ARROWHEAD BELOW
ARABIC DOUBLE RIGHT ARROWHEAD ABOVE;ARABIC DOUBLE RIGHT ARROWHEAD ABOVE WITH DOT
ARABIC RIGHT ARROWHEAD ABOVE WITH DOT;ARABIC DAMMA WITH DOT;ARABIC MARK SIDEWAYS NOON GHUNNA
DEVANAGARI SIGN INVERTED CANDRABINDU;DEVANAGARI SIGN CANDRABINDU;DEVANAGARI SIGN ANUSVARA
DEVANAGARI SIGN VISARGA;DEVANAGARI LETTER SHORT A;DEVANAGARI LETTER A;DEVANAGARI LETTER AA
DEVANAGARI LETTER I;DEVANAGARI LETTER II;DEVANAGARI LETTER U;DEVANAGARI LETTER UU
DEVANAGARI LETTER VOCALIC R;DEVANAGARI LETTER VOCALIC L;DEVANAGARI LETTER CANDRA E
DEVANAGARI LETTER SHORT E;DEVANAGARI LETTER E;DEVANAGARI LETTER AI;DEVANAGARI LETTER CANDRA O
DEVANAGARI LETTER SHORT O;DEVANAGARI LETTER O;DEVANAGARI LETTER AU;DEVANAGARI LETTER KA
DEVANAGARI LETTER KHA;DEVANAGARI LETTER GA;DEVANAGARI LETTER GHA;DEVANAGARI LETTER NGA
DEVANAGARI LETTER CA;DEVANAGARI LETTER CHA;DEVANAGARI LETTER JA;DEVANAGARI LETTER JHA
DEVANAGARI LETTER NYA;DEVANAGARI LETTER TTA;DEVANAGARI LETTER TTHA;DEVANAGARI LETTER DDA
DEVANAGARI LETTER DDHA;DEVANAGARI LETTER NNA;DEVANAGARI LETTER TA;DEVANAGARI LETTER THA
DEVANAGARI LETTER DA;DEVANAGARI LETTER DHA;DEVANAGARI LETTER NA;DEVANAGARI LETTER NNNA
DEVANAGARI LETTER PA;DEVANAGARI LETTER PHA;DEVANAGARI LETTER BA;DEVANAGARI LETTER BHA
DEVANAGARI LETTER MA;DEVANAGARI LETTER YA;DEVANAGARI LETTER RA;DEVANAGARI LETTER RRA
DEVANAGARI LETTER LA;DEVANAGARI LETTER LLA;DEVANAGARI LETTER LLLA;DEVANAGARI LETTER VA
DEVANAGARI LETTER SHA;DEVANAGARI LETTER SSA;DEVANAGARI LETTER SA;DEVANAGARI LETTER HA
DEVANAGARI VOWEL SIGN OE;DEVANAGARI VOWEL SIGN OOE;DEVANAGARI SIGN NUKTA;DEVANAGARI SIGN AVAGRAHA
DEVANAGARI VOWEL SIGN AA;DEVANAGARI VOWEL SIGN I;DEVANAGARI VOWEL SIGN II;DEVANAGARI VOWEL SIGN U
DEVANAGARI VOWEL SIGN UU;DEVANAGARI VOWEL SIGN VOCALIC R;DEVANAGARI VOWEL SIGN VOCALIC RR
DEVANAGARI VOWEL SIGN CANDRA E;DEVANAGARI VOWEL SIGN SHORT E;DEVANAGARI VOWEL SIGN E
DEVANAGARI VOWEL SIGN AI;DEVANAGARI VOWEL SIGN CANDRA O;DEVANAGARI VOWEL SIGN SHORT O
DEVANAGARI VOWEL SIGN O;DEVANAGARI VOWEL SIGN AU;DEVANAGARI SIGN VIRAMA
DEVANAGARI VOWEL SIGN PRISHTHAMATRA E;DEVANAGARI VOWEL SIGN AW;DEVANAGARI OM
DEVANAGARI STRESS SIGN UDATTA;DEVANAGARI STRESS SIGN ANUDATTA;DEVANAGARI GRAVE ACCENT
DEVANAGARI ACUTE ACCENT;DEVANAGARI VOWEL SIGN CANDRA LONG E;DEVANAGARI VOWEL SIGN UE
DEVANAGARI VOWEL SIGN UUE;DEVANAGARI LETTER QA;DEVANAGARI LETTER KHHA;DEVANAGARI LETTER GHHA
DEVANAGARI LETTER ZA;DEVANAGARI LETTER DDDHA;DEVANAGARI LETTER RHA;DEVANAGARI LETTER FA
DEVANAGARI LETTER YYA;DEVANAGARI LETTER VOCALIC RR;DEVANAGARI LETTER VOCALIC LL
DEVANAGARI VOWEL SIGN VOCALIC L;DEVANAGARI VOWEL SIGN VOCALIC LL;DEVANAGARI DANDA
DEVANAGARI DOUBLE DANDA;DEVANAGARI DIGIT ZERO;DEVANAGARI DIGIT ONE;DEVANAGARI DIGIT TWO
DEVANAGARI DIGIT THREE;DEVANAGARI DIGIT FOUR;DEVANAGARI DIGIT FIVE;DEVANAGARI DIGIT SIX
DEVANAGARI DIGIT SEVEN;DEVANAGARI DIGIT EIGHT;DEVANAGARI DIGIT NINE;DEVANAGARI ABBREVIATION SIGN
DEVANAGARI SIGN HIGH SPACING DOT;DEVANAGARI LETTER CANDRA A;DEVANAGARI LETTER OE
DEVANAGARI LETTER OOE;DEVANAGARI LETTER AW;DEVANAGARI LETTER UE;DEVANAGARI LETTER UUE
DEVANAGARI LETTER MARWARI DDA;DEVANAGARI LETTER ZHA;DEVANAGARI LETTER HEAVY YA
DEVANAGARI LETTER GGA;DEVANAGARI LETTER JJA;DEVANAGARI LETTER GLOTTAL STOP;DEVANAGARI LETTER DDDA
DEVANAGARI LETTER BBA;BENGALI ANJI;BENGALI SIGN CANDRABINDU;BENGALI SIGN ANUSVARA
BENGALI SIGN VISARGA"),
  (0x985, "BENGALI LETTER A;BENGALI LETTER AA;BENGALI LETTER I;BENGALI LETTER II;BENGALI LETTER U
BENGALI LETTER UU;BENGALI LETTER VOCALIC R;BENGALI LETTER VOCALIC L"),
  (0x98f, "BENGALI LETTER E;BENGALI LETTER AI"),
  (0x993, "BENGALI LETTER O;BENGALI LETTER AU;BENGALI LETTER KA;BENGALI LETTER KHA
BENGALI LETTER GA;BENGALI LETTER GHA;BENGALI LETTER NGA;BENGALI LETTER CA;BENGALI LETTER CHA
BENGALI LETTER JA;BENGALI LETTER JHA;BENGALI LETTER NYA;BENGALI LETTER TTA;BENGALI LETTER TTHA
BENGALI LETTER DDA;BENGALI LETTER DDHA;BENGALI LETTER NNA;BENGALI LETTER TA;BENGALI LETTER THA
BENGALI LETTER DA;BENGALI LETTER DHA;BENGALI LETTER NA"),
  (0x9aa, "BENGALI LETTER PA;BENGALI LETTER PHA;BENGALI LETTER BA;BENGALI LETTER BHA
BENGALI LETTER MA;BENGALI LETTER YA;BENGALI LETTER RA"),
  (0x9b2, "BENGALI LETTER LA"),
  (0x9b6, "BENGALI LETTER SHA;BENGALI LETTER SSA;BENGALI LETTER SA;BENGALI LETTER HA"),
  (0x9bc, "BENGALI SIGN NUKTA;BENGALI SIGN AVAGRAHA;BENGALI VOWEL SIGN AA;BENGALI VOWEL SIGN I
BENGALI VOWEL SIGN II;BENGALI VOWEL SIGN U;BENGALI VOWEL SIGN UU;BENGALI VOWEL SIGN VOCALIC R
BENGALI VOWEL SIGN VOCALIC RR"),
  (0x9c7, "BENGALI VOWEL SIGN E;BENGALI VOWEL SIGN AI"),
  (0x9cb, "BENGALI VOWEL SIGN O;BENGALI VOWEL SIGN AU;BENGALI SIGN VIRAMA
BENGALI LETTER KHANDA TA"),
  (0x9d7, "BENGALI AU LENGTH MARK"),
  (0x9dc, "BENGALI LETTER RRA;BENGALI LETTER RHA"),
  (0x9df, "BENGALI LETTER YYA;BENGALI LETTER VOCALIC RR;BENGALI LETTER VOCALIC LL
BENGALI VOWEL SIGN VOCALIC L;BENGALI VOWEL SIGN VOCALIC LL"),
  (0x9e6, "BENGALI DIGIT ZERO;BENGALI DIGIT ONE;BENGALI DIGIT TWO;BENGALI DIGIT THREE
BENGALI DIGIT FOUR;BENGALI DIGIT FIVE;BENGALI DIGIT SIX;BENGALI DIGIT SEVEN;BENGALI DIGIT EIGHT
BENGALI DIGIT NINE;BENGALI LETTER RA WITH MIDDLE DIAGONAL;BENGALI LETTER RA WITH LOWER DIAGONAL
BENGALI RUPEE MARK;BENGALI RUPEE SIGN;BENGALI CURRENCY NUMERATOR ONE
BENGALI CURRENCY NUMERATOR TWO;BENGALI CURRENCY NUMERATOR THREE;BENGALI CURRENCY NUMERATOR FOUR
BENGALI CURRENCY NUMERATOR ONE LESS THAN THE DENOMINATOR;BENGALI CURRENCY DENOMINATOR SIXTEEN
BENGALI ISSHAR;BENGALI GANDA MARK;BENGALI LETTER VEDIC ANUSVARA;BENGALI ABBREVIATION SIGN
BENGALI SANDHI MARK"),
  (0xa01, "GURMUKHI SIGN ADAK BINDI;GURMUKHI SIGN BINDI;GURMUKHI SIGN VISARGA"),
  (0xa05, "GURMUKHI LETTER A;GURMUKHI LETTER AA;GURMUKHI LETTER I;GURMUKHI LETTER II
GURMUKHI LETTER U;GURMUKHI LETTER UU"),
  (0xa0f, "GURMUKHI LETTER EE;GURMUKHI LETTER AI"),
  (0xa13, "GURMUKHI LETTER OO;GURMUKHI LETTER AU;GURMUKHI LETTER KA;GURMUKHI LETTER KHA
GURMUKHI LETTER GA;GURMUKHI LETTER GHA;GURMUKHI LETTER NGA;GURMUKHI LETTER CA;GURMUKHI LETTER CHA
GURMUKHI LETTER JA;GURMUKHI LETTER JHA;GURMUKHI LETTER NYA;GURMUKHI LETTER TTA
GURMUKHI LETTER TTHA;GURMUKHI LETTER DDA;GURMUKHI LETTER DDHA;GURMUKHI LETTER NNA
GURMUKHI LETTER TA;GURMUKHI LETTER THA;GURMUKHI LETTER DA;GURMUKHI LETTER DHA;GURMUKHI LETTER NA"),
  (0xa2a, "GURMUKHI LETTER PA;GURMUKHI LETTER PHA;GURMUKHI LETTER BA;GURMUKHI LETTER BHA
GURMUKHI LETTER MA;GURMUKHI LETTER YA;GURMUKHI LETTER RA"),
  (0xa32, "GURMUKHI LETTER LA;GURMUKHI LETTER LLA"),
  (0xa35, "GURMUKHI LETTER VA;GURMUKHI LETTER SHA"),
  (0xa38, "GURMUKHI LETTER SA;GURMUKHI LETTER HA"),
  (0xa3c, "GURMUKHI SIGN NUKTA"),
  (0xa3e, "GURMUKHI VOWEL SIGN AA;GURMUKHI VOWEL SIGN I;GURMUKHI VOWEL SIGN II
GURMUKHI VOWEL SIGN U;GURMUKHI VOWEL SIGN UU"),
  (0xa47, "GURMUKHI VOWEL SIGN EE;GURMUKHI VOWEL SIGN AI"),
  (0xa4b, "GURMUKHI VOWEL SIGN OO;GURMUKHI VOWEL SIGN AU;GURMUKHI SIGN VIRAMA"),
  (0xa51, "GURMUKHI SIGN UDAAT"),
  (0xa59, "GURMUKHI LETTER KHHA;GURMUKHI LETTER GHHA;GURMUKHI LETTER ZA;GURMUKHI LETTER RRA"),
  (0xa5e, "GURMUKHI LETTER FA"),
  (0xa66, "GURMUKHI DIGIT ZERO;GURMUKHI DIGIT ONE;GURMUKHI DIGIT TWO;GURMUKHI DIGIT THREE
GURMUKHI DIGIT FOUR;GURMUKHI DIGIT FIVE;GURMUKHI DIGIT SIX;GURMUKHI DIGIT SEVEN
GURMUKHI DIGIT EIGHT;GURMUKHI DIGIT NINE;GURMUKHI TIPPI;GURMUKHI ADDAK;GURMUKHI IRI;GURMUKHI URA
GURMUKHI EK ONKAR;GURMUKHI SIGN YAKASH;GURMUKHI ABBREVIATION SIGN"),
  (0xa81, "GUJARATI SIGN CANDRABINDU;GUJARATI SIGN ANUSVARA;GUJARATI SIGN VISARGA"),
  (0xa85, "GUJARATI LETTER A;GUJARATI LETTER AA;GUJARATI LETTER I;GUJARATI LETTER II
GUJARATI LETTER U;GUJARATI LETTER UU;GUJARATI LETTER VOCALIC R;GUJARATI LETTER VOCALIC L
GUJARATI VOWEL CANDRA E"),
  (0xa8f, "GUJARATI LETTER E;GUJARATI LETTER AI;GUJARATI VOWEL CANDRA O"),
  (0xa93, "GUJARATI LETTER O;GUJARATI LETTER AU;GUJARATI LETTER KA;GUJARATI LETTER KHA
GUJARATI LETTER GA;GUJARATI LETTER GHA;GUJARATI LETTER NGA;GUJARATI LETTER CA;GUJARATI LETTER CHA
GUJARATI LETTER JA;GUJARATI LETTER JHA;GUJARATI LETTER NYA;GUJARATI LETTER TTA
GUJARATI LETTER TTHA;GUJARATI LETTER DDA;GUJARATI LETTER DDHA;GUJARATI LETTER NNA
GUJARATI LETTER TA;GUJARATI LETTER THA;GUJARATI LETTER DA;GUJARATI LETTER DHA;GUJARATI LETTER NA"),
  (0xaaa, "GUJARATI LETTER PA;GUJARATI LETTER PHA;GUJARATI LETTER BA;GUJARATI LETTER BHA
GUJARATI LETTER MA;GUJARATI LETTER YA;GUJARATI LETTER RA"),
  (0xab2, "GUJARATI LETTER LA;GUJARATI LETTER LLA"),
  (0xab5, "GUJARATI LETTER VA;GUJARATI LETTER SHA;GUJARATI LETTER SSA;GUJARATI LETTER SA
GUJARATI LETTER HA"),
  (0xabc, "GUJARATI SIGN NUKTA;GUJARATI SIGN AVAGRAHA;GUJARATI VOWEL SIGN AA
GUJARATI VOWEL SIGN I;GUJARATI VOWEL SIGN II;GUJARATI VOWEL SIGN U;GUJARATI VOWEL SIGN UU
GUJARATI VOWEL SIGN VOCALIC R;GUJARATI VOWEL SIGN VOCALIC RR;GUJARATI VOWEL SIGN CANDRA E"),
  (0xac7, "GUJARATI VOWEL SIGN E;GUJARATI VOWEL SIGN AI;GUJARATI VOWEL SIGN CANDRA O"),
  (0xacb, "GUJARATI VOWEL SIGN O;GUJARATI VOWEL SIGN AU;GUJARATI SIGN VIRAMA"),
  (0xad0, "GUJARATI OM"),
  (0xae0, "GUJARATI LETTER VOCALIC RR;GUJARATI LETTER VOCALIC LL;GUJARATI VOWEL SIGN VOCALIC L
GUJARATI VOWEL SIGN VOCALIC LL"),
  (0xae6, "GUJARATI DIGIT ZERO;GUJARATI DIGIT ONE;GUJARATI DIGIT TWO;GUJARATI DIGIT THREE
GUJARATI DIGIT FOUR;GUJARATI DIGIT FIVE;GUJARATI DIGIT SIX;GUJARATI DIGIT SEVEN
GUJARATI DIGIT EIGHT;GUJARATI DIGIT NINE;GUJARATI ABBREVIATION SIGN;GUJARATI RUPEE SIGN"),
  (0xaf9, "GUJARATI LETTER ZHA;GUJARATI SIGN SUKUN;GUJARATI SIGN SHADDA;GUJARATI SIGN MADDAH
GUJARATI SIGN THREE-DOT NUKTA ABOVE;GUJARATI SIGN CIRCLE NUKTA ABOVE
GUJARATI SIGN TWO-CIRCLE NUKTA ABOVE"),
  (0xb01, "ORIYA SIGN CANDRABINDU;ORIYA SIGN ANUSVARA;ORIYA SIGN VISARGA"),
  (0xb05, "ORIYA LETTER A;ORIYA LETTER AA;ORIYA LETTER I;ORIYA LETTER II;ORIYA LETTER U
ORIYA LETTER UU;ORIYA LETTER VOCALIC R;ORIYA LETTER VOCALIC L"),
  (0xb0f, "ORIYA LETTER E;ORIYA LETTER AI"),
  (0xb13, "ORIYA LETTER O;ORIYA LETTER AU;ORIYA LETTER KA;ORIYA LETTER KHA;ORIYA LETTER GA
ORIYA LETTER GHA;ORIYA LETTER NGA;ORIYA LETTER CA;ORIYA LETTER CHA;ORIYA LETTER JA
ORIYA LETTER JHA;ORIYA LETTER NYA;ORIYA LETTER TTA;ORIYA LETTER TTHA;ORIYA LETTER DDA
ORIYA LETTER DDHA;ORIYA LETTER NNA;ORIYA LETTER TA;ORIYA LETTER THA;ORIYA LETTER DA
ORIYA LETTER DHA;ORIYA LETTER NA"),
  (0xb2a, "ORIYA LETTER PA;ORIYA LETTER PHA;ORIYA LETTER BA;ORIYA LETTER BHA;ORIYA LETTER MA
ORIYA LETTER YA;ORIYA LETTER RA"),
  (0xb32, "ORIYA LETTER LA;ORIYA LETTER LLA"),
  (0xb35, "ORIYA LETTER VA;ORIYA LETTER SHA;ORIYA LETTER SSA;ORIYA LETTER SA;ORIYA LETTER HA"),
  (0xb3c, "ORIYA SIGN NUKTA;ORIYA SIGN AVAGRAHA;ORIYA VOWEL SIGN AA;ORIYA VOWEL SIGN I
ORIYA VOWEL SIGN II;ORIYA VOWEL SIGN U;ORIYA VOWEL SIGN UU;ORIYA VOWEL SIGN VOCALIC R
ORIYA VOWEL SIGN VOCALIC RR"),
  (0xb47, "ORIYA VOWEL SIGN E;ORIYA VOWEL SIGN AI"),
  (0xb4b, "ORIYA VOWEL SIGN O;ORIYA VOWEL SIGN AU;ORIYA SIGN VIRAMA"),
  (0xb55, "ORIYA SIGN OVERLINE;ORIYA AI LENGTH MARK;ORIYA AU LENGTH MARK"),
  (0xb5c, "ORIYA LETTER RRA;ORIYA LETTER RHA"),
  (0xb5f, "ORIYA LETTER YYA;ORIYA LETTER VOCALIC RR;ORIYA LETTER VOCALIC LL
ORIYA VOWEL SIGN VOCALIC L;ORIYA VOWEL SIGN VOCALIC LL"),
  (0xb66, "ORIYA DIGIT ZERO;ORIYA DIGIT ONE;ORIYA DIGIT TWO;ORIYA DIGIT THREE;ORIYA DIGIT FOUR
ORIYA DIGIT FIVE;ORIYA DIGIT SIX;ORIYA DIGIT SEVEN;ORIYA DIGIT EIGHT;ORIYA DIGIT NINE
ORIYA ISSHAR;ORIYA LETTER WA;ORIYA FRACTION ONE QUARTER;ORIYA FRACTION ONE HALF
ORIYA FRACTION THREE QUARTERS;ORIYA FRACTION ONE SIXTEENTH;ORIYA FRACTION ONE EIGHTH
ORIYA FRACTION THREE SIXTEENTHS"),
  (0xb82, "TAMIL SIGN ANUSVARA;TAMIL SIGN VISARGA"),
  (0xb85, "TAMIL LETTER A;TAMIL LETTER AA;TAMIL LETTER I;TAMIL LETTER II;TAMIL LETTER U
TAMIL LETTER UU"),
  (0xb8e, "TAMIL LETTER E;TAMIL LETTER EE;TAMIL LETTER AI"),
  (0xb92, "TAMIL LETTER O;TAMIL LETTER OO;TAMIL LETTER AU;TAMIL LETTER KA"),
  (0xb99, "TAMIL LETTER NGA;TAMIL LETTER CA"),
  (0xb9c, "TAMIL LETTER JA"),
  (0xb9e, "TAMIL LETTER NYA;TAMIL LETTER TTA"),
  (0xba3, "TAMIL LETTER NNA;TAMIL LETTER TA"),
  (0xba8, "TAMIL LETTER NA;TAMIL LETTER NNNA;TAMIL LETTER PA"),
  (0xbae, "TAMIL LETTER MA;TAMIL LETTER YA;TAMIL LETTER RA;TAMIL LETTER RRA;TAMIL LETTER LA
TAMIL LETTER LLA;TAMIL LETTER LLLA;TAMIL LETTER VA;TAMIL LETTER SHA;TAMIL LETTER SSA
TAMIL LETTER SA;TAMIL LETTER HA"),
  (0xbbe, "TAMIL VOWEL SIGN AA;TAMIL VOWEL SIGN I;TAMIL VOWEL SIGN II;TAMIL VOWEL SIGN U
TAMIL VOWEL SIGN UU"),
  (0xbc6, "TAMIL VOWEL SIGN E;TAMIL VOWEL SIGN EE;TAMIL VOWEL SIGN AI"),
  (0xbca, "TAMIL VOWEL SIGN O;TAMIL VOWEL SIGN OO;TAMIL VOWEL SIGN AU;TAMIL SIGN VIRAMA"),
  (0xbd0, "TAMIL OM"),
  (0xbd7, "TAMIL AU LENGTH MARK"),
  (0xbe6, "TAMIL DIGIT ZERO;TAMIL DIGIT ONE;TAMIL DIGIT TWO;TAMIL DIGIT THREE;TAMIL DIGIT FOUR
TAMIL DIGIT FIVE;TAMIL DIGIT SIX;TAMIL DIGIT SEVEN;TAMIL DIGIT EIGHT;TAMIL DIGIT NINE
TAMIL NUMBER TEN;TAMIL NUMBER ONE HUNDRED;TAMIL NUMBER ONE THOUSAND;TAMIL DAY SIGN
TAMIL MONTH SIGN;TAMIL YEAR SIGN;TAMIL DEBIT SIGN;TAMIL CREDIT SIGN;TAMIL AS ABOVE SIGN
TAMIL RUPEE SIGN;TAMIL NUMBER SIGN"),
  (0xc00, "TELUGU SIGN COMBINING CANDRABINDU ABOVE;TELUGU SIGN CANDRABINDU;TELUGU SIGN ANUSVARA
TELUGU SIGN VISARGA;TELUGU SIGN COMBINING ANUSVARA ABOVE;TELUGU LETTER A;TELUGU LETTER AA
TELUGU LETTER I;TELUGU LETTER II;TELUGU LETTER U;TELUGU LETTER UU;TELUGU LETTER VOCALIC R
TELUGU LETTER VOCALIC L"),
  (0xc0e, "TELUGU LETTER E;TELUGU LETTER EE;TELUGU LETTER AI"),
  (0xc12, "TELUGU LETTER O;TELUGU LETTER OO;TELUGU LETTER AU;TELUGU LETTER KA;TELUGU LETTER KHA
TELUGU LETTER GA;TELUGU LETTER GHA;TELUGU LETTER NGA;TELUGU LETTER CA;TELUGU LETTER CHA
TELUGU LETTER JA;TELUGU LETTER JHA;TELUGU LETTER NYA;TELUGU LETTER TTA;TELUGU LETTER TTHA
TELUGU LETTER DDA;TELUGU LETTER DDHA;TELUGU LETTER NNA;TELUGU LETTER TA;TELUGU LETTER THA
TELUGU LETTER DA;TELUGU LETTER DHA;TELUGU LETTER NA"),
  (0xc2a, "TELUGU LETTER PA;TELUGU LETTER PHA;TELUGU LETTER BA;TELUGU LETTER BHA;TELUGU LETTER MA
TELUGU LETTER YA;TELUGU LETTER RA;TELUGU LETTER RRA;TELUGU LETTER LA;TELUGU LETTER LLA
TELUGU LETTER LLLA;TELUGU LETTER VA;TELUGU LETTER SHA;TELUGU LETTER SSA;TELUGU LETTER SA
TELUGU LETTER HA"),
  (0xc3c, "TELUGU SIGN NUKTA;TELUGU SIGN AVAGRAHA;TELUGU VOWEL SIGN AA;TELUGU VOWEL SIGN I
TELUGU VOWEL SIGN II;TELUGU VOWEL SIGN U;TELUGU VOWEL SIGN UU;TELUGU VOWEL SIGN VOCALIC R
TELUGU VOWEL SIGN VOCALIC RR"),
  (0xc46, "TELUGU VOWEL SIGN E;TELUGU VOWEL SIGN EE;TELUGU VOWEL SIGN AI"),
  (0xc4a, "TELUGU VOWEL SIGN O;TELUGU VOWEL SIGN OO;TELUGU VOWEL SIGN AU;TELUGU SIGN VIRAMA"),
  (0xc55, "TELUGU LENGTH MARK;TELUGU AI LENGTH MARK"),
  (0xc58, "TELUGU LETTER TSA;TELUGU LETTER DZA;TELUGU LETTER RRRA"),
  (0xc5d, "TELUGU LETTER NAKAARA POLLU"),
  (0xc60, "TELUGU LETTER VOCALIC RR;TELUGU LETTER VOCALIC LL;TELUGU VOWEL SIGN VOCALIC L
TELUGU VOWEL SIGN VOCALIC LL"),
  (0xc66, "TELUGU DIGIT ZERO;TELUGU DIGIT ONE;TELUGU DIGIT TWO;TELUGU DIGIT THREE
TELUGU DIGIT FOUR;TELUGU DIGIT FIVE;TELUGU DIGIT SIX;TELUGU DIGIT SEVEN;TELUGU DIGIT EIGHT
TELUGU DIGIT NINE"),
  (0xc77, "TELUGU SIGN SIDDHAM;TELUGU FRACTION DIGIT ZERO FOR ODD POWERS OF FOUR
TELUGU FRACTION DIGIT ONE FOR ODD POWERS OF FOUR;TELUGU FRACTION DIGIT TWO FOR ODD POWERS OF FOUR
TELUGU FRACTION DIGIT THREE FOR ODD POWERS OF FOUR
TELUGU FRACTION DIGIT ONE FOR EVEN POWERS OF FOUR
TELUGU FRACTION DIGIT TWO FOR EVEN POWERS OF FOUR
TELUGU FRACTION DIGIT THREE FOR EVEN POWERS OF FOUR;TELUGU SIGN TUUMU
KANNADA SIGN SPACING CANDRABINDU;KANNADA SIGN CANDRABINDU;KANNADA SIGN ANUSVARA
KANNADA SIGN VISARGA;KANNADA SIGN SIDDHAM;KANNADA LETTER A;KANNADA LETTER AA;KANNADA LETTER I
KANNADA LETTER II;KANNADA LETTER U;KANNADA LETTER UU;KANNADA LETTER VOCALIC R
KANNADA LETTER VOCALIC L"),
  (0xc8e, "KANNADA LETTER E;KANNADA LETTER EE;KANNADA LETTER AI"),
  (0xc92, "KANNADA LETTER O;KANNADA LETTER OO;KANNADA LETTER AU;KANNADA LETTER KA
KANNADA LETTER KHA;KANNADA LETTER GA;KANNADA LETTER GHA;KANNADA LETTER NGA;KANNADA LETTER CA
KANNADA LETTER CHA;KANNADA LETTER JA;KANNADA LETTER JHA;KANNADA LETTER NYA;KANNADA LETTER TTA
KANNADA LETTER TTHA;KANNADA LETTER DDA;KANNADA LETTER DDHA;KANNADA LETTER NNA;KANNADA LETTER TA
KANNADA LETTER THA;KANNADA LETTER DA;KANNADA LETTER DHA;KANNADA LETTER NA"),
  (0xcaa, "KANNADA LETTER PA;KANNADA LETTER PHA;KANNADA LETTER BA;KANNADA LETTER BHA
KANNADA LETTER MA;KANNADA LETTER YA;KANNADA LETTER RA;KANNADA LETTER RRA;KANNADA LETTER LA
KANNADA LETTER LLA"),
  (0xcb5, "KANNADA LETTER VA;KANNADA LETTER SHA;KANNADA LETTER SSA;KANNADA LETTER SA
KANNADA LETTER HA"),
  (0xcbc, "KANNADA SIGN NUKTA;KANNADA SIGN AVAGRAHA;KANNADA VOWEL SIGN AA;KANNADA VOWEL SIGN I
KANNADA VOWEL SIGN II;KANNADA VOWEL SIGN U;KANNADA VOWEL SIGN UU;KANNADA VOWEL SIGN VOCALIC R
KANNADA VOWEL SIGN VOCALIC RR"),
  (0xcc6, "KANNADA VOWEL SIGN E;KANNADA VOWEL SIGN EE;KANNADA VOWEL SIGN AI"),
  (0xcca, "KANNADA VOWEL SIGN O;KANNADA VOWEL SIGN OO;KANNADA VOWEL SIGN AU;KANNADA SIGN VIRAMA"),
  (0xcd5, "KANNADA LENGTH MARK;KANNADA AI LENGTH MARK"),
  (0xcdd, "KANNADA LETTER NAKAARA POLLU;KANNADA LETTER FA"),
  (0xce0, "KANNADA LETTER VOCALIC RR;KANNADA LETTER VOCALIC LL;KANNADA VOWEL SIGN VOCALIC L
KANNADA VOWEL SIGN VOCALIC LL"),
  (0xce6, "KANNADA DIGIT ZERO;KANNADA DIGIT ONE;KANNADA DIGIT TWO;KANNADA DIGIT THREE
KANNADA DIGIT FOUR;KANNADA DIGIT FIVE;KANNADA DIGIT SIX;KANNADA DIGIT SEVEN;KANNADA DIGIT EIGHT
KANNADA DIGIT NINE"),
  (0xcf1, "KANNADA SIGN JIHVAMULIYA;KANNADA SIGN UPADHMANIYA"),
  (0xd00, "MALAYALAM SIGN COMBINING ANUSVARA ABOVE;MALAYALAM SIGN CANDRABINDU
MALAYALAM SIGN ANUSVARA;MALAYALAM SIGN VISARGA;MALAYALAM LETTER VEDIC ANUSVARA;MALAYALAM LETTER A
MALAYALAM LETTER AA;MALAYALAM LETTER I;MALAYALAM LETTER II;MALAYALAM LETTER U;MALAYALAM LETTER UU
MALAYALAM LETTER VOCALIC R;MALAYALAM LETTER VOCALIC L"),
  (0xd0e, "MALAYALAM LETTER E;MALAYALAM LETTER EE;MALAYALAM LETTER AI"),
  (0xd12, "MALAYALAM LETTER O;MALAYALAM LETTER OO;MALAYALAM LETTER AU;MALAYALAM LETTER KA
MALAYALAM LETTER KHA;MALAYALAM LETTER GA;MALAYALAM LETTER GHA;MALAYALAM LETTER NGA
MALAYALAM LETTER CA;MALAYALAM LETTER CHA;MALAYALAM LETTER JA;MALAYALAM LETTER JHA
MALAYALAM LETTER NYA;MALAYALAM LETTER TTA;MALAYALAM LETTER TTHA;MALAYALAM LETTER DDA
MALAYALAM LETTER DDHA;MALAYALAM LETTER NNA;MALAYALAM LETTER TA;MALAYALAM LETTER THA
MALAYALAM LETTER DA;MALAYALAM LETTER DHA;MALAYALAM LETTER NA;MALAYALAM LETTER NNNA
MALAYALAM LETTER PA;MALAYALAM LETTER PHA;MALAYALAM LETTER BA;MALAYALAM LETTER BHA
MALAYALAM LETTER MA;MALAYALAM LETTER YA;MALAYALAM LETTER RA;MALAYALAM LETTER RRA
MALAYALAM LETTER LA;MALAYALAM LETTER LLA;MALAYALAM LETTER LLLA;MALAYALAM LETTER VA
MALAYALAM LETTER SHA;MALAYALAM LETTER SSA;MALAYALAM LETTER SA;MALAYALAM LETTER HA
MALAYALAM LETTER TTTA;MALAYALAM SIGN VERTICAL BAR VIRAMA;MALAYALAM SIGN CIRCULAR VIRAMA
MALAYALAM SIGN AVAGRAHA;MALAYALAM VOWEL SIGN AA;MALAYALAM VOWEL SIGN I;MALAYALAM VOWEL SIGN II
MALAYALAM VOWEL SIGN U;MALAYALAM VOWEL SIGN UU;MALAYALAM VOWEL SIGN VOCALIC R
MALAYALAM VOWEL SIGN VOCALIC RR"),
  (0xd46, "MALAYALAM VOWEL SIGN E;MALAYALAM VOWEL SIGN EE;MALAYALAM VOWEL SIGN AI"),
  (0xd4a, "MALAYALAM VOWEL SIGN O;MALAYALAM VOWEL SIGN OO;MALAYALAM VOWEL SIGN AU
MALAYALAM SIGN VIRAMA;MALAYALAM LETTER DOT REPH;MALAYALAM SIGN PARA"),
  (0xd54, "MALAYALAM LETTER CHILLU M;MALAYALAM LETTER CHILLU Y;MALAYALAM LETTER CHILLU LLL
MALAYALAM AU LENGTH MARK;MALAYALAM FRACTION ONE ONE-HUNDRED-AND-SIXTIETH
MALAYALAM FRACTION ONE FORTIETH;MALAYALAM FRACTION THREE EIGHTIETHS
MALAYALAM FRACTION ONE TWENTIETH;MALAYALAM FRACTION ONE TENTH;MALAYALAM FRACTION THREE TWENTIETHS
MALAYALAM FRACTION ONE FIFTH;MALAYALAM LETTER ARCHAIC II;MALAYALAM LETTER VOCALIC RR
MALAYALAM LETTER VOCALIC LL;MALAYALAM VOWEL SIGN VOCALIC L;MALAYALAM VOWEL SIGN VOCALIC LL"),
  (0xd66, "MALAYALAM DIGIT ZERO;MALAYALAM DIGIT ONE;MALAYALAM DIGIT TWO;MALAYALAM DIGIT THREE
MALAYALAM DIGIT FOUR;MALAYALAM DIGIT FIVE;MALAYALAM DIGIT SIX;MALAYALAM DIGIT SEVEN
MALAYALAM DIGIT EIGHT;MALAYALAM DIGIT NINE;MALAYALAM NUMBER TEN;MALAYALAM NUMBER ONE HUNDRED
MALAYALAM NUMBER ONE THOUSAND;MALAYALAM FRACTION ONE QUARTER;MALAYALAM FRACTION ONE HALF
MALAYALAM FRACTION THREE QUARTERS;MALAYALAM FRACTION ONE SIXTEENTH;MALAYALAM FRACTION ONE EIGHTH
MALAYALAM FRACTION THREE SIXTEENTHS;MALAYALAM DATE MARK;MALAYALAM LETTER CHILLU NN
MALAYALAM LETTER CHILLU N;MALAYALAM LETTER CHILLU RR;MALAYALAM LETTER CHILLU L
MALAYALAM LETTER CHILLU LL;MALAYALAM LETTER CHILLU K"),
  (0xd81, "SINHALA SIGN CANDRABINDU;SINHALA SIGN ANUSVARAYA;SINHALA SIGN VISARGAYA"),
  (0xd85, "SINHALA LETTER AYANNA;SINHALA LETTER AAYANNA;SINHALA LETTER AEYANNA
SINHALA LETTER AEEYANNA;SINHALA LETTER IYANNA;SINHALA LETTER IIYANNA;SINHALA LETTER UYANNA
SINHALA LETTER UUYANNA;SINHALA LETTER IRUYANNA;SINHALA LETTER IRUUYANNA;SINHALA LETTER ILUYANNA
SINHALA LETTER ILUUYANNA;SINHALA LETTER EYANNA;SINHALA LETTER EEYANNA;SINHALA LETTER AIYANNA
SINHALA LETTER OYANNA;SINHALA LETTER OOYANNA;SINHALA LETTER AUYANNA"),
  (0xd9a, "SINHALA LETTER ALPAPRAANA KAYANNA;SINHALA LETTER MAHAAPRAANA KAYANNA
SINHALA LETTER ALPAPRAANA GAYANNA;SINHALA LETTER MAHAAPRAANA GAYANNA
SINHALA LETTER KANTAJA NAASIKYAYA;SINHALA LETTER SANYAKA GAYANNA
SINHALA LETTER ALPAPRAANA CAYANNA;SINHALA LETTER MAHAAPRAANA CAYANNA
SINHALA LETTER ALPAPRAANA JAYANNA;SINHALA LETTER MAHAAPRAANA JAYANNA
SINHALA LETTER TAALUJA NAASIKYAYA;SINHALA LETTER TAALUJA SANYOOGA NAAKSIKYAYA
SINHALA LETTER SANYAKA JAYANNA;SINHALA LETTER ALPAPRAANA TTAYANNA
SINHALA LETTER MAHAAPRAANA TTAYANNA;SINHALA LETTER ALPAPRAANA DDAYANNA
SINHALA LETTER MAHAAPRAANA DDAYANNA;SINHALA LETTER MUURDHAJA NAYANNA
SINHALA LETTER SANYAKA DDAYANNA;SINHALA LETTER ALPAPRAANA TAYANNA
SINHALA LETTER MAHAAPRAANA TAYANNA;SINHALA LETTER ALPAPRAANA DAYANNA
SINHALA LETTER MAHAAPRAANA DAYANNA;SINHALA LETTER DANTAJA NAYANNA"),
  (0xdb3, "SINHALA LETTER SANYAKA DAYANNA;SINHALA LETTER ALPAPRAANA PAYANNA
SINHALA LETTER MAHAAPRAANA PAYANNA;SINHALA LETTER ALPAPRAANA BAYANNA
SINHALA LETTER MAHAAPRAANA BAYANNA;SINHALA LETTER MAYANNA;SINHALA LETTER AMBA BAYANNA
SINHALA LETTER YAYANNA;SINHALA LETTER RAYANNA"),
  (0xdbd, "SINHALA LETTER DANTAJA LAYANNA"),
  (0xdc0, "SINHALA LETTER VAYANNA;SINHALA LETTER TAALUJA SAYANNA;SINHALA LETTER MUURDHAJA SAYANNA
SINHALA LETTER DANTAJA SAYANNA;SINHALA LETTER HAYANNA;SINHALA LETTER MUURDHAJA LAYANNA
SINHALA LETTER FAYANNA"),
  (0xdca, "SINHALA SIGN AL-LAKUNA"),
  (0xdcf, "SINHALA VOWEL SIGN AELA-PILLA;SINHALA VOWEL SIGN KETTI AEDA-PILLA
SINHALA VOWEL SIGN DIGA AEDA-PILLA;SINHALA VOWEL SIGN KETTI IS-PILLA
SINHALA VOWEL SIGN DIGA IS-PILLA;SINHALA VOWEL SIGN KETTI PAA-PILLA"),
  (0xdd6, "SINHALA VOWEL SIGN DIGA PAA-PILLA"),
  (0xdd8, "SINHALA VOWEL SIGN GAETTA-PILLA;SINHALA VOWEL SIGN KOMBUVA
SINHALA VOWEL SIGN DIGA KOMBUVA;SINHALA VOWEL SIGN KOMBU DEKA
SINHALA VOWEL SIGN KOMBUVA HAA AELA-PILLA;SINHALA VOWEL SIGN KOMBUVA HAA DIGA AELA-PILLA
SINHALA VOWEL SIGN KOMBUVA HAA GAYANUKITTA;SINHALA VOWEL SIGN GAYANUKITTA"),
  (0xde6, "SINHALA LITH DIGIT ZERO;SINHALA LITH DIGIT ONE;SINHALA LITH DIGIT TWO
SINHALA LITH DIGIT THREE;SINHALA LITH DIGIT FOUR;SINHALA LITH DIGIT FIVE;SINHALA LITH DIGIT SIX
SINHALA LITH DIGIT SEVEN;SINHALA LITH DIGIT EIGHT;SINHALA LITH DIGIT NINE"),
  (0xdf2, "SINHALA VOWEL SIGN DIGA GAETTA-PILLA;SINHALA VOWEL SIGN DIGA GAYANUKITTA
SINHALA PUNCTUATION KUNDDALIYA"),
  (0xe01, "THAI CHARACTER KO KAI;THAI CHARACTER KHO KHAI;THAI CHARACTER KHO KHUAT
THAI CHARACTER KHO KHWAI;THAI CHARACTER KHO KHON;THAI CHARACTER KHO RAKHANG
THAI CHARACTER NGO NGU;THAI CHARACTER CHO CHAN;THAI CHARACTER CHO CHING;THAI CHARACTER CHO CHANG
THAI CHARACTER SO SO;THAI CHARACTER CHO CHOE;THAI CHARACTER YO YING;THAI CHARACTER DO CHADA
THAI CHARACTER TO PATAK;THAI CHARACTER THO THAN;THAI CHARACTER THO NANGMONTHO
THAI CHARACTER THO PHUTHAO;THAI CHARACTER NO NEN;THAI CHARACTER DO DEK;THAI CHARACTER TO TAO
THAI CHARACTER THO THUNG;THAI CHARACTER THO THAHAN;THAI CHARACTER THO THONG;THAI CHARACTER NO NU
THAI CHARACTER BO BAIMAI;THAI CHARACTER PO PLA;THAI CHARACTER PHO PHUNG;THAI CHARACTER FO FA
THAI CHARACTER PHO PHAN;THAI CHARACTER FO FAN;THAI CHARACTER PHO SAMPHAO;THAI CHARACTER MO MA
THAI CHARACTER YO YAK;THAI CHARACTER RO RUA;THAI CHARACTER RU;THAI CHARACTER LO LING
THAI CHARACTER LU;THAI CHARACTER WO WAEN;THAI CHARACTER SO SALA;THAI CHARACTER SO RUSI
THAI CHARACTER SO SUA;THAI CHARACTER HO HIP;THAI CHARACTER LO CHULA;THAI CHARACTER O ANG
THAI CHARACTER HO NOKHUK;THAI CHARACTER PAIYANNOI;THAI CHARACTER SARA A
THAI CHARACTER MAI HAN-AKAT;THAI CHARACTER SARA AA;THAI CHARACTER SARA AM;THAI CHARACTER SARA I
THAI CHARACTER SARA II;THAI CHARACTER SARA UE;THAI CHARACTER SARA UEE;THAI CHARACTER SARA U
THAI CHARACTER SARA UU;THAI CHARACTER PHINTHU"),
  (0xe3f, "THAI CURRENCY SYMBOL BAHT;THAI CHARACTER SARA E;THAI CHARACTER SARA AE
THAI CHARACTER SARA O;THAI CHARACTER SARA AI MAIMUAN;THAI CHARACTER SARA AI MAIMALAI
THAI CHARACTER LAKKHANGYAO;THAI CHARACTER MAIYAMOK;THAI CHARACTER MAITAIKHU;THAI CHARACTER MAI EK
THAI CHARACTER MAI THO;THAI CHARACTER MAI TRI;THAI CHARACTER MAI CHATTAWA
THAI CHARACTER THANTHAKHAT;THAI CHARACTER NIKHAHIT;THAI CHARACTER YAMAKKAN;THAI CHARACTER FONGMAN
THAI DIGIT ZERO;THAI DIGIT ONE;THAI DIGIT TWO;THAI DIGIT THREE;THAI DIGIT FOUR;THAI DIGIT FIVE
THAI DIGIT SIX;THAI DIGIT SEVEN;THAI DIGIT EIGHT;THAI DIGIT NINE;THAI CHARACTER ANGKHANKHU
THAI CHARACTER KHOMUT"),
  (0xe81, "LAO LETTER KO;LAO LETTER KHO SUNG"),
  (0xe84, "LAO LETTER KHO TAM"),
  (0xe86, "LAO LETTER PALI GHA;LAO LETTER NGO;LAO LETTER CO;LAO LETTER PALI CHA;LAO LETTER SO TAM"),
  (0xe8c, "LAO LETTER PALI JHA;LAO LETTER NYO;LAO LETTER PALI NYA;LAO LETTER PALI TTA
LAO LETTER PALI TTHA;LAO LETTER PALI DDA;LAO LETTER PALI DDHA;LAO LETTER PALI NNA;LAO LETTER DO
LAO LETTER TO;LAO LETTER THO SUNG;LAO LETTER THO TAM;LAO LETTER PALI DHA;LAO LETTER NO
LAO LETTER BO;LAO LETTER PO;LAO LETTER PHO SUNG;LAO LETTER FO TAM;LAO LETTER PHO TAM
LAO LETTER FO SUNG;LAO LETTER PALI BHA;LAO LETTER MO;LAO LETTER YO;LAO LETTER LO LING"),
  (0xea5, "LAO LETTER LO LOOT"),
  (0xea7, "LAO LETTER WO;LAO LETTER SANSKRIT SHA;LAO LETTER SANSKRIT SSA;LAO LETTER SO SUNG
LAO LETTER HO SUNG;LAO LETTER PALI LLA;LAO LETTER O;LAO LETTER HO TAM;LAO ELLIPSIS
LAO VOWEL SIGN A;LAO VOWEL SIGN MAI KAN;LAO VOWEL SIGN AA;LAO VOWEL SIGN AM;LAO VOWEL SIGN I
LAO VOWEL SIGN II;LAO VOWEL SIGN Y;LAO VOWEL SIGN YY;LAO VOWEL SIGN U;LAO VOWEL SIGN UU
LAO SIGN PALI VIRAMA;LAO VOWEL SIGN MAI KON;LAO SEMIVOWEL SIGN LO;LAO SEMIVOWEL SIGN NYO"),
  (0xec0, "LAO VOWEL SIGN E;LAO VOWEL SIGN EI;LAO VOWEL SIGN O;LAO VOWEL SIGN AY
LAO VOWEL SIGN AI"),
  (0xec6, "LAO KO LA"),
  (0xec8, "LAO TONE MAI EK;LAO TONE MAI THO;LAO TONE MAI TI;LAO TONE MAI CATAWA
LAO CANCELLATION MARK;LAO NIGGAHITA"),
  (0xed0, "LAO DIGIT ZERO;LAO DIGIT ONE;LAO DIGIT TWO;LAO DIGIT THREE;LAO DIGIT FOUR
LAO DIGIT FIVE;LAO DIGIT SIX;LAO DIGIT SEVEN;LAO DIGIT EIGHT;LAO DIGIT NINE"),
  (0xedc, "LAO HO NO;LAO HO MO;LAO LETTER KHMU GO;LAO LETTER KHMU NYO"),
  (0xf00, "TIBETAN SYLLABLE OM;TIBETAN MARK GTER YIG MGO TRUNCATED A
TIBETAN MARK GTER YIG MGO -UM RNAM BCAD MA;TIBETAN MARK GTER YIG MGO -UM GTER TSHEG MA
TIBETAN MARK INITIAL YIG MGO MDUN MA;TIBETAN MARK CLOSING YIG MGO SGAB MA
TIBETAN MARK CARET YIG MGO PHUR SHAD MA;TIBETAN MARK YIG MGO TSHEG SHAD MA
TIBETAN MARK SBRUL SHAD;TIBETAN MARK BSKUR YIG MGO;TIBETAN MARK BKA- SHOG YIG MGO
TIBETAN MARK INTERSYLLABIC TSHEG;TIBETAN MARK DELIMITER TSHEG BSTAR;TIBETAN MARK SHAD
TIBETAN MARK NYIS SHAD;TIBETAN MARK TSHEG SHAD;TIBETAN MARK NYIS TSHEG SHAD
TIBETAN MARK RIN CHEN SPUNGS SHAD;TIBETAN MARK RGYA GRAM SHAD
TIBETAN MARK CARET -DZUD RTAGS ME LONG CAN;TIBETAN MARK GTER TSHEG
TIBETAN LOGOTYPE SIGN CHAD RTAGS;TIBETAN LOGOTYPE SIGN LHAG RTAGS
TIBETAN ASTROLOGICAL SIGN SGRA GCAN -CHAR RTAGS;TIBETAN ASTROLOGICAL SIGN -KHYUD PA
TIBETAN ASTROLOGICAL SIGN SDONG TSHUGS;TIBETAN SIGN RDEL DKAR GCIG;TIBETAN SIGN RDEL DKAR GNYIS
TIBETAN SIGN RDEL DKAR GSUM;TIBETAN SIGN RDEL NAG GCIG;TIBETAN SIGN RDEL NAG GNYIS
TIBETAN SIGN RDEL DKAR RDEL NAG;TIBETAN DIGIT ZERO;TIBETAN DIGIT ONE;TIBETAN DIGIT TWO
TIBETAN DIGIT THREE;TIBETAN DIGIT FOUR;TIBETAN DIGIT FIVE;TIBETAN DIGIT SIX;TIBETAN DIGIT SEVEN
TIBETAN DIGIT EIGHT;TIBETAN DIGIT NINE;TIBETAN DIGIT HALF ONE;TIBETAN DIGIT HALF TWO
TIBETAN DIGIT HALF THREE;TIBETAN DIGIT HALF FOUR;TIBETAN DIGIT HALF FIVE;TIBETAN DIGIT HALF SIX
TIBETAN DIGIT HALF SEVEN;TIBETAN DIGIT HALF EIGHT;TIBETAN DIGIT HALF NINE;TIBETAN DIGIT HALF ZERO
TIBETAN MARK BSDUS RTAGS;TIBETAN MARK NGAS BZUNG NYI ZLA
TIBETAN MARK CARET -DZUD RTAGS BZHI MIG CAN;TIBETAN MARK NGAS BZUNG SGOR RTAGS
TIBETAN MARK CHE MGO;TIBETAN MARK TSA -PHRU;TIBETAN MARK GUG RTAGS GYON
TIBETAN MARK GUG RTAGS GYAS;TIBETAN MARK ANG KHANG GYON;TIBETAN MARK ANG KHANG GYAS
TIBETAN SIGN YAR TSHES;TIBETAN SIGN MAR TSHES;TIBETAN LETTER KA;TIBETAN LETTER KHA
TIBETAN LETTER GA;TIBETAN LETTER GHA;TIBETAN LETTER NGA;TIBETAN LETTER CA;TIBETAN LETTER CHA
TIBETAN LETTER JA"),
  (0xf49, "TIBETAN LETTER NYA;TIBETAN LETTER TTA;TIBETAN LETTER TTHA;TIBETAN LETTER DDA
TIBETAN LETTER DDHA;TIBETAN LETTER NNA;TIBETAN LETTER TA;TIBETAN LETTER THA;TIBETAN LETTER DA
TIBETAN LETTER DHA;TIBETAN LETTER NA;TIBETAN LETTER PA;TIBETAN LETTER PHA;TIBETAN LETTER BA
TIBETAN LETTER BHA;TIBETAN LETTER MA;TIBETAN LETTER TSA;TIBETAN LETTER TSHA;TIBETAN LETTER DZA
TIBETAN LETTER DZHA;TIBETAN LETTER WA;TIBETAN LETTER ZHA;TIBETAN LETTER ZA;TIBETAN LETTER -A
TIBETAN LETTER YA;TIBETAN LETTER RA;TIBETAN LETTER LA;TIBETAN LETTER SHA;TIBETAN LETTER SSA
TIBETAN LETTER SA;TIBETAN LETTER HA;TIBETAN LETTER A;TIBETAN LETTER KSSA
TIBETAN LETTER FIXED-FORM RA;TIBETAN LETTER KKA;TIBETAN LETTER RRA"),
  (0xf71, "TIBETAN VOWEL SIGN AA;TIBETAN VOWEL SIGN I;TIBETAN VOWEL SIGN II;TIBETAN VOWEL SIGN U
TIBETAN VOWEL SIGN UU;TIBETAN VOWEL SIGN VOCALIC R;TIBETAN VOWEL SIGN VOCALIC RR
TIBETAN VOWEL SIGN VOCALIC L;TIBETAN VOWEL SIGN VOCALIC LL;TIBETAN VOWEL SIGN E
TIBETAN VOWEL SIGN EE;TIBETAN VOWEL SIGN O;TIBETAN VOWEL SIGN OO;TIBETAN SIGN RJES SU NGA RO
TIBETAN SIGN RNAM BCAD;TIBETAN VOWEL SIGN REVERSED I;TIBETAN VOWEL SIGN REVERSED II
TIBETAN SIGN NYI ZLA NAA DA;TIBETAN SIGN SNA LDAN;TIBETAN MARK HALANTA;TIBETAN MARK PALUTA
TIBETAN SIGN LCI RTAGS;TIBETAN SIGN YANG RTAGS;TIBETAN SIGN LCE TSA CAN;TIBETAN SIGN MCHU CAN
TIBETAN SIGN GRU CAN RGYINGS;TIBETAN SIGN GRU MED RGYINGS;TIBETAN SIGN INVERTED MCHU CAN
TIBETAN SUBJOINED SIGN LCE TSA CAN;TIBETAN SUBJOINED SIGN MCHU CAN
TIBETAN SUBJOINED SIGN INVERTED MCHU CAN;TIBETAN SUBJOINED LETTER KA;TIBETAN SUBJOINED LETTER KHA
TIBETAN SUBJOINED LETTER GA;TIBETAN SUBJOINED LETTER GHA;TIBETAN SUBJOINED LETTER NGA
TIBETAN SUBJOINED LETTER CA;TIBETAN SUBJOINED LETTER CHA;TIBETAN SUBJOINED LETTER JA")]

end UrlRouting.Text
