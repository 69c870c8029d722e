/-!
# Names of characters from U+2860 to U+4DFF

The names of Unicode 14.  Each entry gives the first of some characters in a row and their
names, one after the other, between semicolons and line ends.
-/

namespace UrlRouting.Text

/-- The names of the characters from U+2860 to U+4DFF. -/
def namesFrom2860 : List (Nat × String) := [
  (0x2860, "BRAILLE PATTERN DOTS-67;BRAILLE PATTERN DOTS-167;BRAILLE PATTERN DOTS-267
BRAILLE PATTERN DOTS-1267;BRAILLE PATTERN DOTS-367;BRAILLE PATTERN DOTS-1367
BRAILLE PATTERN DOTS-2367;BRAILLE PATTERN DOTS-12367;BRAILLE PATTERN DOTS-467
BRAILLE PATTERN DOTS-1467;BRAILLE PATTERN DOTS-2467;BRAILLE PATTERN DOTS-12467
BRAILLE PATTERN DOTS-3467;BRAILLE PATTERN DOTS-13467;BRAILLE PATTERN DOTS-23467
BRAILLE PATTERN DOTS-123467;BRAILLE PATTERN DOTS-567;BRAILLE PATTERN DOTS-1567
BRAILLE PATTERN DOTS-2567;BRAILLE PATTERN DOTS-12567;BRAILLE PATTERN DOTS-3567
BRAILLE PATTERN DOTS-13567;BRAILLE PATTERN DOTS-23567;BRAILLE PATTERN DOTS-123567
BRAILLE PATTERN DOTS-4567;BRAILLE PATTERN DOTS-14567;BRAILLE PATTERN DOTS-24567
BRAILLE PATTERN DOTS-124567;BRAILLE PATTERN DOTS-34567;BRAILLE PATTERN DOTS-134567
BRAILLE PATTERN DOTS-234567;BRAILLE PATTERN DOTS-1234567;BRAILLE PATTERN DOTS-8
BRAILLE PATTERN DOTS-18;BRAILLE PATTERN DOTS-28;BRAILLE PATTERN DOTS-128;BRAILLE PATTERN DOTS-38
BRAILLE PATTERN DOTS-138;BRAILLE PATTERN DOTS-238;BRAILLE PATTERN DOTS-1238
BRAILLE PATTERN DOTS-48;BRAILLE PATTERN DOTS-148;BRAILLE PATTERN DOTS-248
BRAILLE PATTERN DOTS-1248;BRAILLE PATTERN DOTS-348;BRAILLE PATTERN DOTS-1348
BRAILLE PATTERN DOTS-2348;BRAILLE PATTERN DOTS-12348;BRAILLE PATTERN DOTS-58
BRAILLE PATTERN DOTS-158;BRAILLE PATTERN DOTS-258;BRAILLE PATTERN DOTS-1258
BRAILLE PATTERN DOTS-358;BRAILLE PATTERN DOTS-1358;BRAILLE PATTERN DOTS-2358
BRAILLE PATTERN DOTS-12358;BRAILLE PATTERN DOTS-458;BRAILLE PATTERN DOTS-1458
BRAILLE PATTERN DOTS-2458;BRAILLE PATTERN DOTS-12458;BRAILLE PATTERN DOTS-3458
BRAILLE PATTERN DOTS-13458;BRAILLE PATTERN DOTS-23458;BRAILLE PATTERN DOTS-123458
BRAILLE PATTERN DOTS-68;BRAILLE PATTERN DOTS-168;BRAILLE PATTERN DOTS-268
BRAILLE PATTERN DOTS-1268;BRAILLE PATTERN DOTS-368;BRAILLE PATTERN DOTS-1368
BRAILLE PATTERN DOTS-2368;BRAILLE PATTERN DOTS-12368;BRAILLE PATTERN DOTS-468
BRAILLE PATTERN DOTS-1468;BRAILLE PATTERN DOTS-2468;BRAILLE PATTERN DOTS-12468
BRAILLE PATTERN DOTS-3468;BRAILLE PATTERN DOTS-13468;BRAILLE PATTERN DOTS-23468
BRAILLE PATTERN DOTS-123468;BRAILLE PATTERN DOTS-568;BRAILLE PATTERN DOTS-1568
BRAILLE PATTERN DOTS-2568;BRAILLE PATTERN DOTS-12568;BRAILLE PATTERN DOTS-3568
BRAILLE PATTERN DOTS-13568;BRAILLE PATTERN DOTS-23568;BRAILLE PATTERN DOTS-123568
BRAILLE PATTERN DOTS-4568;BRAILLE PATTERN DOTS-14568;BRAILLE PATTERN DOTS-24568
BRAILLE PATTERN DOTS-124568;BRAILLE PATTERN DOTS-34568;BRAILLE PATTERN DOTS-134568
BRAILLE PATTERN DOTS-234568;BRAILLE PATTERN DOTS-1234568;BRAILLE PATTERN DOTS-78
BRAILLE PATTERN DOTS-178;BRAILLE PATTERN DOTS-278;BRAILLE PATTERN DOTS-1278
BRAILLE PATTERN DOTS-378;BRAILLE PATTERN DOTS-1378;BRAILLE PATTERN DOTS-2378
BRAILLE PATTERN DOTS-12378;BRAILLE PATTERN DOTS-478;BRAILLE PATTERN DOTS-1478
BRAILLE PATTERN DOTS-2478;BRAILLE PATTERN DOTS-12478;BRAILLE PATTERN DOTS-3478
BRAILLE PATTERN DOTS-13478;BRAILLE PATTERN DOTS-23478;BRAILLE PATTERN DOTS-123478
BRAILLE PATTERN DOTS-578;BRAILLE PATTERN DOTS-1578;BRAILLE PATTERN DOTS-2578
BRAILLE PATTERN DOTS-12578;BRAILLE PATTERN DOTS-3578;BRAILLE PATTERN DOTS-13578
BRAILLE PATTERN DOTS-23578;BRAILLE PATTERN DOTS-123578;BRAILLE PATTERN DOTS-4578
BRAILLE PATTERN DOTS-14578;BRAILLE PATTERN DOTS-24578;BRAILLE PATTERN DOTS-124578
BRAILLE PATTERN DOTS-34578;BRAILLE PATTERN DOTS-134578;BRAILLE PATTERN DOTS-234578
BRAILLE PATTERN DOTS-1234578;BRAILLE PATTERN DOTS-678;BRAILLE PATTERN DOTS-1678
BRAILLE PATTERN DOTS-2678;BRAILLE PATTERN DOTS-12678;BRAILLE PATTERN DOTS-3678
BRAILLE PATTERN DOTS-13678;BRAILLE PATTERN DOTS-23678;BRAILLE PATTERN DOTS-123678
BRAILLE PATTERN DOTS-4678;BRAILLE PATTERN DOTS-14678;BRAILLE PATTERN DOTS-24678
BRAILLE PATTERN DOTS-124678;BRAILLE PATTERN DOTS-34678;BRAILLE PATTERN DOTS-134678
BRAILLE PATTERN DOTS-234678;BRAILLE PATTERN DOTS-1234678;BRAILLE PATTERN DOTS-5678
BRAILLE PATTERN DOTS-15678;BRAILLE PATTERN DOTS-25678;BRAILLE PATTERN DOTS-125678
BRAILLE PATTERN DOTS-35678;BRAILLE PATTERN DOTS-135678;BRAILLE PATTERN DOTS-235678
BRAILLE PATTERN DOTS-1235678;BRAILLE PATTERN DOTS-45678;BRAILLE PATTERN DOTS-145678
BRAILLE PATTERN DOTS-245678;BRAILLE PATTERN DOTS-1245678;BRAILLE PATTERN DOTS-345678
BRAILLE PATTERN DOTS-1345678;BRAILLE PATTERN DOTS-2345678;BRAILLE PATTERN DOTS-12345678
RIGHTWARDS TWO-HEADED ARROW WITH VERTICAL STROKE
RIGHTWARDS TWO-HEADED ARROW WITH DOUBLE VERTICAL STROKE
LEFTWARDS DOUBLE ARROW WITH VERTICAL STROKE;RIGHTWARDS DOUBLE ARROW WITH VERTICAL STROKE
LEFT RIGHT DOUBLE ARROW WITH VERTICAL STROKE;RIGHTWARDS TWO-HEADED ARROW FROM BAR
LEFTWARDS DOUBLE ARROW FROM BAR;RIGHTWARDS DOUBLE ARROW FROM BAR
DOWNWARDS ARROW WITH HORIZONTAL STROKE;UPWARDS ARROW WITH HORIZONTAL STROKE;UPWARDS TRIPLE ARROW
DOWNWARDS TRIPLE ARROW;LEFTWARDS DOUBLE DASH ARROW;RIGHTWARDS DOUBLE DASH ARROW
LEFTWARDS TRIPLE DASH ARROW;RIGHTWARDS TRIPLE DASH ARROW;RIGHTWARDS TWO-HEADED TRIPLE DASH ARROW
RIGHTWARDS ARROW WITH DOTTED STEM;UPWARDS ARROW TO BAR;DOWNWARDS ARROW TO BAR
RIGHTWARDS ARROW WITH TAIL WITH VERTICAL STROKE
RIGHTWARDS ARROW WITH TAIL WITH DOUBLE VERTICAL STROKE;RIGHTWARDS TWO-HEADED ARROW WITH TAIL
RIGHTWARDS TWO-HEADED ARROW WITH TAIL WITH VERTICAL STROKE
RIGHTWARDS TWO-HEADED ARROW WITH TAIL WITH DOUBLE VERTICAL STROKE;LEFTWARDS ARROW-TAIL
RIGHTWARDS ARROW-TAIL;LEFTWARDS DOUBLE ARROW-TAIL;RIGHTWARDS DOUBLE ARROW-TAIL
LEFTWARDS ARROW TO BLACK DIAMOND;RIGHTWARDS ARROW TO BLACK DIAMOND
LEFTWARDS ARROW FROM BAR TO BLACK DIAMOND;RIGHTWARDS ARROW FROM BAR TO BLACK DIAMOND
NORTH WEST AND SOUTH EAST ARROW;NORTH EAST AND SOUTH WEST ARROW;NORTH WEST ARROW WITH HOOK
NORTH EAST ARROW WITH HOOK;SOUTH EAST ARROW WITH HOOK;SOUTH WEST ARROW WITH HOOK
NORTH WEST ARROW AND NORTH EAST ARROW;NORTH EAST ARROW AND SOUTH EAST ARROW
SOUTH EAST ARROW AND SOUTH WEST ARROW;SOUTH WEST ARROW AND NORTH WEST ARROW
RISING DIAGONAL CROSSING FALLING DIAGONAL;FALLING DIAGONAL CROSSING RISING DIAGONAL
SOUTH EAST ARROW CROSSING NORTH EAST ARROW;NORTH EAST ARROW CROSSING SOUTH EAST ARROW
FALLING DIAGONAL CROSSING NORTH EAST ARROW;RISING DIAGONAL CROSSING SOUTH EAST ARROW
NORTH EAST ARROW CROSSING NORTH WEST ARROW;NORTH WEST ARROW CROSSING NORTH EAST ARROW
WAVE ARROW POINTING DIRECTLY RIGHT;ARROW POINTING RIGHTWARDS THEN CURVING UPWARDS
ARROW POINTING RIGHTWARDS THEN CURVING DOWNWARDS;ARROW POINTING DOWNWARDS THEN CURVING LEFTWARDS
ARROW POINTING DOWNWARDS THEN CURVING RIGHTWARDS;RIGHT-SIDE ARC CLOCKWISE ARROW
LEFT-SIDE ARC ANTICLOCKWISE ARROW;TOP ARC ANTICLOCKWISE ARROW;BOTTOM ARC ANTICLOCKWISE ARROW
TOP ARC CLOCKWISE ARROW WITH MINUS;TOP ARC ANTICLOCKWISE ARROW WITH PLUS
LOWER RIGHT SEMICIRCULAR CLOCKWISE ARROW;LOWER LEFT SEMICIRCULAR ANTICLOCKWISE ARROW
ANTICLOCKWISE CLOSED CIRCLE ARROW;CLOCKWISE CLOSED CIRCLE ARROW
RIGHTWARDS ARROW ABOVE SHORT LEFTWARDS ARROW;LEFTWARDS ARROW ABOVE SHORT RIGHTWARDS ARROW
SHORT RIGHTWARDS ARROW ABOVE LEFTWARDS ARROW;RIGHTWARDS ARROW WITH PLUS BELOW
LEFTWARDS ARROW WITH PLUS BELOW;RIGHTWARDS ARROW THROUGH X;LEFT RIGHT ARROW THROUGH SMALL CIRCLE
UPWARDS TWO-HEADED ARROW FROM SMALL CIRCLE;LEFT BARB UP RIGHT BARB DOWN HARPOON
LEFT BARB DOWN RIGHT BARB UP HARPOON;UP BARB RIGHT DOWN BARB LEFT HARPOON
UP BARB LEFT DOWN BARB RIGHT HARPOON;LEFT BARB UP RIGHT BARB UP HARPOON
UP BARB RIGHT DOWN BARB RIGHT HARPOON;LEFT BARB DOWN RIGHT BARB DOWN HARPOON
UP BARB LEFT DOWN BARB LEFT HARPOON;LEFTWARDS HARPOON WITH BARB UP TO BAR
RIGHTWARDS HARPOON WITH BARB UP TO BAR;UPWARDS HARPOON WITH BARB RIGHT TO BAR
DOWNWARDS HARPOON WITH BARB RIGHT TO BAR;LEFTWARDS HARPOON WITH BARB DOWN TO BAR
RIGHTWARDS HARPOON WITH BARB DOWN TO BAR;UPWARDS HARPOON WITH BARB LEFT TO BAR
DOWNWARDS HARPOON WITH BARB LEFT TO BAR;LEFTWARDS HARPOON WITH BARB UP FROM BAR
RIGHTWARDS HARPOON WITH BARB UP FROM BAR;UPWARDS HARPOON WITH BARB RIGHT FROM BAR
DOWNWARDS HARPOON WITH BARB RIGHT FROM BAR;LEFTWARDS HARPOON WITH BARB DOWN FROM BAR
RIGHTWARDS HARPOON WITH BARB DOWN FROM BAR;UPWARDS HARPOON WITH BARB LEFT FROM BAR
DOWNWARDS HARPOON WITH BARB LEFT FROM BAR
LEFTWARDS HARPOON WITH BARB UP ABOVE LEFTWARDS HARPOON WITH BARB DOWN
UPWARDS HARPOON WITH BARB LEFT BESIDE UPWARDS HARPOON WITH BARB RIGHT
RIGHTWARDS HARPOON WITH BARB UP ABOVE RIGHTWARDS HARPOON WITH BARB DOWN
DOWNWARDS HARPOON WITH BARB LEFT BESIDE DOWNWARDS HARPOON WITH BARB RIGHT
LEFTWARDS HARPOON WITH BARB UP ABOVE RIGHTWARDS HARPOON WITH BARB UP
LEFTWARDS HARPOON WITH BARB DOWN ABOVE RIGHTWARDS HARPOON WITH BARB DOWN
RIGHTWARDS HARPOON WITH BARB UP ABOVE LEFTWARDS HARPOON WITH BARB UP
RIGHTWARDS HARPOON WITH BARB DOWN ABOVE LEFTWARDS HARPOON WITH BARB DOWN
LEFTWARDS HARPOON WITH BARB UP ABOVE LONG DASH;LEFTWARDS HARPOON WITH BARB DOWN BELOW LONG DASH
RIGHTWARDS HARPOON WITH BARB UP ABOVE LONG DASH;RIGHTWARDS HARPOON WITH BARB DOWN BELOW LONG DASH
UPWARDS HARPOON WITH BARB LEFT BESIDE DOWNWARDS HARPOON WITH BARB RIGHT
DOWNWARDS HARPOON WITH BARB LEFT BESIDE UPWARDS HARPOON WITH BARB RIGHT
RIGHT DOUBLE ARROW WITH ROUNDED HEAD;EQUALS SIGN ABOVE RIGHTWARDS ARROW
TILDE OPERATOR ABOVE RIGHTWARDS ARROW;LEFTWARDS ARROW ABOVE TILDE OPERATOR
RIGHTWARDS ARROW ABOVE TILDE OPERATOR;RIGHTWARDS ARROW ABOVE ALMOST EQUAL TO
LESS-THAN ABOVE LEFTWARDS ARROW;LEFTWARDS ARROW THROUGH LESS-THAN
GREATER-THAN ABOVE RIGHTWARDS ARROW;SUBSET ABOVE RIGHTWARDS ARROW;LEFTWARDS ARROW THROUGH SUBSET
SUPERSET ABOVE LEFTWARDS ARROW;LEFT FISH TAIL;RIGHT FISH TAIL;UP FISH TAIL;DOWN FISH TAIL
TRIPLE VERTICAL BAR DELIMITER;Z NOTATION SPOT;Z NOTATION TYPE COLON;LEFT WHITE CURLY BRACKET
RIGHT WHITE CURLY BRACKET;LEFT WHITE PARENTHESIS;RIGHT WHITE PARENTHESIS
Z NOTATION LEFT IMAGE BRACKET;Z NOTATION RIGHT IMAGE BRACKET;Z NOTATION LEFT BINDING BRACKET
Z NOTATION RIGHT BINDING BRACKET;LEFT SQUARE BRACKET WITH UNDERBAR
RIGHT SQUARE BRACKET WITH UNDERBAR;LEFT SQUARE BRACKET WITH TICK IN TOP CORNER
RIGHT SQUARE BRACKET WITH TICK IN BOTTOM CORNER;LEFT SQUARE BRACKET WITH TICK IN BOTTOM CORNER
RIGHT SQUARE BRACKET WITH TICK IN TOP CORNER;LEFT ANGLE BRACKET WITH DOT
RIGHT ANGLE BRACKET WITH DOT;LEFT ARC LESS-THAN BRACKET;RIGHT ARC GREATER-THAN BRACKET
DOUBLE LEFT ARC GREATER-THAN BRACKET;DOUBLE RIGHT ARC LESS-THAN BRACKET
LEFT BLACK TORTOISE SHELL BRACKET;RIGHT BLACK TORTOISE SHELL BRACKET;DOTTED FENCE
VERTICAL ZIGZAG LINE;MEASURED ANGLE OPENING LEFT;RIGHT ANGLE VARIANT WITH SQUARE
MEASURED RIGHT ANGLE WITH DOT;ANGLE WITH S INSIDE;ACUTE ANGLE;SPHERICAL ANGLE OPENING LEFT
SPHERICAL ANGLE OPENING UP;TURNED ANGLE;REVERSED ANGLE;ANGLE WITH UNDERBAR
REVERSED ANGLE WITH UNDERBAR;OBLIQUE ANGLE OPENING UP;OBLIQUE ANGLE OPENING DOWN
MEASURED ANGLE WITH OPEN ARM ENDING IN ARROW POINTING UP AND RIGHT
MEASURED ANGLE WITH OPEN ARM ENDING IN ARROW POINTING UP AND LEFT
MEASURED ANGLE WITH OPEN ARM ENDING IN ARROW POINTING DOWN AND RIGHT
MEASURED ANGLE WITH OPEN ARM ENDING IN ARROW POINTING DOWN AND LEFT
MEASURED ANGLE WITH OPEN ARM ENDING IN ARROW POINTING RIGHT AND UP
MEASURED ANGLE WITH OPEN ARM ENDING IN ARROW POINTING LEFT AND UP
MEASURED ANGLE WITH OPEN ARM ENDING IN ARROW POINTING RIGHT AND DOWN
MEASURED ANGLE WITH OPEN ARM ENDING IN ARROW POINTING LEFT AND DOWN;REVERSED EMPTY SET
EMPTY SET WITH OVERBAR;EMPTY SET WITH SMALL CIRCLE ABOVE;EMPTY SET WITH RIGHT ARROW ABOVE
EMPTY SET WITH LEFT ARROW ABOVE;CIRCLE WITH HORIZONTAL BAR;CIRCLED VERTICAL BAR;CIRCLED PARALLEL
CIRCLED REVERSE SOLIDUS;CIRCLED PERPENDICULAR
CIRCLE DIVIDED BY HORIZONTAL BAR AND TOP HALF DIVIDED BY VERTICAL BAR;CIRCLE WITH SUPERIMPOSED X
CIRCLED ANTICLOCKWISE-ROTATED DIVISION SIGN;UP ARROW THROUGH CIRCLE;CIRCLED WHITE BULLET
CIRCLED BULLET;CIRCLED LESS-THAN;CIRCLED GREATER-THAN;CIRCLE WITH SMALL CIRCLE TO THE RIGHT
CIRCLE WITH TWO HORIZONTAL STROKES TO THE RIGHT;SQUARED RISING DIAGONAL SLASH
SQUARED FALLING DIAGONAL SLASH;SQUARED ASTERISK;SQUARED SMALL CIRCLE;SQUARED SQUARE
TWO JOINED SQUARES;TRIANGLE WITH DOT ABOVE;TRIANGLE WITH UNDERBAR;S IN TRIANGLE
TRIANGLE WITH SERIFS AT BOTTOM;RIGHT TRIANGLE ABOVE LEFT TRIANGLE
LEFT TRIANGLE BESIDE VERTICAL BAR;VERTICAL BAR BESIDE RIGHT TRIANGLE;BOWTIE WITH LEFT HALF BLACK
BOWTIE WITH RIGHT HALF BLACK;BLACK BOWTIE;TIMES WITH LEFT HALF BLACK;TIMES WITH RIGHT HALF BLACK
WHITE HOURGLASS;BLACK HOURGLASS;LEFT WIGGLY FENCE;RIGHT WIGGLY FENCE;LEFT DOUBLE WIGGLY FENCE
RIGHT DOUBLE WIGGLY FENCE;INCOMPLETE INFINITY;TIE OVER INFINITY
INFINITY NEGATED WITH VERTICAL BAR;DOUBLE-ENDED MULTIMAP;SQUARE WITH CONTOURED OUTLINE
INCREASES AS;SHUFFLE PRODUCT;EQUALS SIGN AND SLANTED PARALLEL
EQUALS SIGN AND SLANTED PARALLEL WITH TILDE ABOVE;IDENTICAL TO AND SLANTED PARALLEL;GLEICH STARK
THERMODYNAMIC;DOWN-POINTING TRIANGLE WITH LEFT HALF BLACK
DOWN-POINTING TRIANGLE WITH RIGHT HALF BLACK;BLACK DIAMOND WITH DOWN ARROW;BLACK LOZENGE
WHITE CIRCLE WITH DOWN ARROW;BLACK CIRCLE WITH DOWN ARROW;ERROR-BARRED WHITE SQUARE
ERROR-BARRED BLACK SQUARE;ERROR-BARRED WHITE DIAMOND;ERROR-BARRED BLACK DIAMOND
ERROR-BARRED WHITE CIRCLE;ERROR-BARRED BLACK CIRCLE;RULE-DELAYED;REVERSE SOLIDUS OPERATOR
SOLIDUS WITH OVERBAR;REVERSE SOLIDUS WITH HORIZONTAL STROKE;BIG SOLIDUS;BIG REVERSE SOLIDUS
DOUBLE PLUS;TRIPLE PLUS;LEFT-POINTING CURVED ANGLE BRACKET;RIGHT-POINTING CURVED ANGLE BRACKET
TINY;MINY;N-ARY CIRCLED DOT OPERATOR;N-ARY CIRCLED PLUS OPERATOR;N-ARY CIRCLED TIMES OPERATOR
N-ARY UNION OPERATOR WITH DOT;N-ARY UNION OPERATOR WITH PLUS;N-ARY SQUARE INTERSECTION OPERATOR
N-ARY SQUARE UNION OPERATOR;TWO LOGICAL AND OPERATOR;TWO LOGICAL OR OPERATOR;N-ARY TIMES OPERATOR
MODULO TWO SUM;SUMMATION WITH INTEGRAL;QUADRUPLE INTEGRAL OPERATOR;FINITE PART INTEGRAL
INTEGRAL WITH DOUBLE STROKE;INTEGRAL AVERAGE WITH SLASH;CIRCULATION FUNCTION
ANTICLOCKWISE INTEGRATION;LINE INTEGRATION WITH RECTANGULAR PATH AROUND POLE
LINE INTEGRATION WITH SEMICIRCULAR PATH AROUND POLE;LINE INTEGRATION NOT INCLUDING THE POLE
INTEGRAL AROUND A POINT OPERATOR;QUATERNION INTEGRAL OPERATOR
INTEGRAL WITH LEFTWARDS ARROW WITH HOOK;INTEGRAL WITH TIMES SIGN;INTEGRAL WITH INTERSECTION
INTEGRAL WITH UNION;INTEGRAL WITH OVERBAR;INTEGRAL WITH UNDERBAR;JOIN
LARGE LEFT TRIANGLE OPERATOR;Z NOTATION SCHEMA COMPOSITION;Z NOTATION SCHEMA PIPING
Z NOTATION SCHEMA PROJECTION;PLUS SIGN WITH SMALL CIRCLE ABOVE
PLUS SIGN WITH CIRCUMFLEX ACCENT ABOVE;PLUS SIGN WITH TILDE ABOVE;PLUS SIGN WITH DOT BELOW
PLUS SIGN WITH TILDE BELOW;PLUS SIGN WITH SUBSCRIPT TWO;PLUS SIGN WITH BLACK TRIANGLE
MINUS SIGN WITH COMMA ABOVE;MINUS SIGN WITH DOT BELOW;MINUS SIGN WITH FALLING DOTS
MINUS SIGN WITH RISING DOTS;PLUS SIGN IN LEFT HALF CIRCLE;PLUS SIGN IN RIGHT HALF CIRCLE
VECTOR OR CROSS PRODUCT;MULTIPLICATION SIGN WITH DOT ABOVE;MULTIPLICATION SIGN WITH UNDERBAR
SEMIDIRECT PRODUCT WITH BOTTOM CLOSED;SMASH PRODUCT;MULTIPLICATION SIGN IN LEFT HALF CIRCLE
MULTIPLICATION SIGN IN RIGHT HALF CIRCLE;CIRCLED MULTIPLICATION SIGN WITH CIRCUMFLEX ACCENT
MULTIPLICATION SIGN IN DOUBLE CIRCLE;CIRCLED DIVISION SIGN;PLUS SIGN IN TRIANGLE
MINUS SIGN IN TRIANGLE;MULTIPLICATION SIGN IN TRIANGLE;INTERIOR PRODUCT
RIGHTHAND INTERIOR PRODUCT;Z NOTATION RELATIONAL COMPOSITION;AMALGAMATION OR COPRODUCT
INTERSECTION WITH DOT;UNION WITH MINUS SIGN;UNION WITH OVERBAR;INTERSECTION WITH OVERBAR
INTERSECTION WITH LOGICAL AND;UNION WITH LOGICAL OR;UNION ABOVE INTERSECTION
INTERSECTION ABOVE UNION;UNION ABOVE BAR ABOVE INTERSECTION;INTERSECTION ABOVE BAR ABOVE UNION
UNION BESIDE AND JOINED WITH UNION;INTERSECTION BESIDE AND JOINED WITH INTERSECTION
CLOSED UNION WITH SERIFS;CLOSED INTERSECTION WITH SERIFS;DOUBLE SQUARE INTERSECTION
DOUBLE SQUARE UNION;CLOSED UNION WITH SERIFS AND SMASH PRODUCT;LOGICAL AND WITH DOT ABOVE
LOGICAL OR WITH DOT ABOVE;DOUBLE LOGICAL AND;DOUBLE LOGICAL OR;TWO INTERSECTING LOGICAL AND
TWO INTERSECTING LOGICAL OR;SLOPING LARGE OR;SLOPING LARGE AND;LOGICAL OR OVERLAPPING LOGICAL AND
LOGICAL AND WITH MIDDLE STEM;LOGICAL OR WITH MIDDLE STEM;LOGICAL AND WITH HORIZONTAL DASH
LOGICAL OR WITH HORIZONTAL DASH;LOGICAL AND WITH DOUBLE OVERBAR;LOGICAL AND WITH UNDERBAR
LOGICAL AND WITH DOUBLE UNDERBAR;SMALL VEE WITH UNDERBAR;LOGICAL OR WITH DOUBLE OVERBAR
LOGICAL OR WITH DOUBLE UNDERBAR;Z NOTATION DOMAIN ANTIRESTRICTION
Z NOTATION RANGE ANTIRESTRICTION;EQUALS SIGN WITH DOT BELOW;IDENTICAL WITH DOT ABOVE
TRIPLE HORIZONTAL BAR WITH DOUBLE VERTICAL STROKE
TRIPLE HORIZONTAL BAR WITH TRIPLE VERTICAL STROKE;TILDE OPERATOR WITH DOT ABOVE
TILDE OPERATOR WITH RISING DOTS;SIMILAR MINUS SIMILAR;CONGRUENT WITH DOT ABOVE
EQUALS WITH ASTERISK;ALMOST EQUAL TO WITH CIRCUMFLEX ACCENT;APPROXIMATELY EQUAL OR EQUAL TO
EQUALS SIGN ABOVE PLUS SIGN;PLUS SIGN ABOVE EQUALS SIGN;EQUALS SIGN ABOVE TILDE OPERATOR
DOUBLE COLON EQUAL;TWO CONSECUTIVE EQUALS SIGNS;THREE CONSECUTIVE EQUALS SIGNS
EQUALS SIGN WITH TWO DOTS ABOVE AND TWO DOTS BELOW;EQUIVALENT WITH FOUR DOTS ABOVE
LESS-THAN WITH CIRCLE INSIDE;GREATER-THAN WITH CIRCLE INSIDE;LESS-THAN WITH QUESTION MARK ABOVE
GREATER-THAN WITH QUESTION MARK ABOVE;LESS-THAN OR SLANTED EQUAL TO
GREATER-THAN OR SLANTED EQUAL TO;LESS-THAN OR SLANTED EQUAL TO WITH DOT INSIDE
GREATER-THAN OR SLANTED EQUAL TO WITH DOT INSIDE;LESS-THAN OR SLANTED EQUAL TO WITH DOT ABOVE
GREATER-THAN OR SLANTED EQUAL TO WITH DOT ABOVE
LESS-THAN OR SLANTED EQUAL TO WITH DOT ABOVE RIGHT
GREATER-THAN OR SLANTED EQUAL TO WITH DOT ABOVE LEFT;LESS-THAN OR APPROXIMATE
GREATER-THAN OR APPROXIMATE;LESS-THAN AND SINGLE-LINE NOT EQUAL TO
GREATER-THAN AND SINGLE-LINE NOT EQUAL TO;LESS-THAN AND NOT APPROXIMATE
GREATER-THAN AND NOT APPROXIMATE;LESS-THAN ABOVE DOUBLE-LINE EQUAL ABOVE GREATER-THAN
GREATER-THAN ABOVE DOUBLE-LINE EQUAL ABOVE LESS-THAN;LESS-THAN ABOVE SIMILAR OR EQUAL
GREATER-THAN ABOVE SIMILAR OR EQUAL;LESS-THAN ABOVE SIMILAR ABOVE GREATER-THAN
GREATER-THAN ABOVE SIMILAR ABOVE LESS-THAN;LESS-THAN ABOVE GREATER-THAN ABOVE DOUBLE-LINE EQUAL
GREATER-THAN ABOVE LESS-THAN ABOVE DOUBLE-LINE EQUAL
LESS-THAN ABOVE SLANTED EQUAL ABOVE GREATER-THAN ABOVE SLANTED EQUAL
GREATER-THAN ABOVE SLANTED EQUAL ABOVE LESS-THAN ABOVE SLANTED EQUAL
SLANTED EQUAL TO OR LESS-THAN;SLANTED EQUAL TO OR GREATER-THAN
SLANTED EQUAL TO OR LESS-THAN WITH DOT INSIDE;SLANTED EQUAL TO OR GREATER-THAN WITH DOT INSIDE
DOUBLE-LINE EQUAL TO OR LESS-THAN;DOUBLE-LINE EQUAL TO OR GREATER-THAN
DOUBLE-LINE SLANTED EQUAL TO OR LESS-THAN;DOUBLE-LINE SLANTED EQUAL TO OR GREATER-THAN
SIMILAR OR LESS-THAN;SIMILAR OR GREATER-THAN;SIMILAR ABOVE LESS-THAN ABOVE EQUALS SIGN
SIMILAR ABOVE GREATER-THAN ABOVE EQUALS SIGN;DOUBLE NESTED LESS-THAN;DOUBLE NESTED GREATER-THAN
DOUBLE NESTED LESS-THAN WITH UNDERBAR;GREATER-THAN OVERLAPPING LESS-THAN
GREATER-THAN BESIDE LESS-THAN;LESS-THAN CLOSED BY CURVE;GREATER-THAN CLOSED BY CURVE
LESS-THAN CLOSED BY CURVE ABOVE SLANTED EQUAL;GREATER-THAN CLOSED BY CURVE ABOVE SLANTED EQUAL
SMALLER THAN;LARGER THAN;SMALLER THAN OR EQUAL TO;LARGER THAN OR EQUAL TO
EQUALS SIGN WITH BUMPY ABOVE;PRECEDES ABOVE SINGLE-LINE EQUALS SIGN
SUCCEEDS ABOVE SINGLE-LINE EQUALS SIGN;PRECEDES ABOVE SINGLE-LINE NOT EQUAL TO
SUCCEEDS ABOVE SINGLE-LINE NOT EQUAL TO;PRECEDES ABOVE EQUALS SIGN;SUCCEEDS ABOVE EQUALS SIGN
PRECEDES ABOVE NOT EQUAL TO;SUCCEEDS ABOVE NOT EQUAL TO;PRECEDES ABOVE ALMOST EQUAL TO
SUCCEEDS ABOVE ALMOST EQUAL TO;PRECEDES ABOVE NOT ALMOST EQUAL TO
SUCCEEDS ABOVE NOT ALMOST EQUAL TO;DOUBLE PRECEDES;DOUBLE SUCCEEDS;SUBSET WITH DOT
SUPERSET WITH DOT;SUBSET WITH PLUS SIGN BELOW;SUPERSET WITH PLUS SIGN BELOW
SUBSET WITH MULTIPLICATION SIGN BELOW;SUPERSET WITH MULTIPLICATION SIGN BELOW
SUBSET OF OR EQUAL TO WITH DOT ABOVE;SUPERSET OF OR EQUAL TO WITH DOT ABOVE
SUBSET OF ABOVE EQUALS SIGN;SUPERSET OF ABOVE EQUALS SIGN;SUBSET OF ABOVE TILDE OPERATOR
SUPERSET OF ABOVE TILDE OPERATOR;SUBSET OF ABOVE ALMOST EQUAL TO
SUPERSET OF ABOVE ALMOST EQUAL TO;SUBSET OF ABOVE NOT EQUAL TO;SUPERSET OF ABOVE NOT EQUAL TO
SQUARE LEFT OPEN BOX OPERATOR;SQUARE RIGHT OPEN BOX OPERATOR;CLOSED SUBSET;CLOSED SUPERSET
CLOSED SUBSET OR EQUAL TO;CLOSED SUPERSET OR EQUAL TO;SUBSET ABOVE SUPERSET;SUPERSET ABOVE SUBSET
SUBSET ABOVE SUBSET;SUPERSET ABOVE SUPERSET;SUPERSET BESIDE SUBSET
SUPERSET BESIDE AND JOINED BY DASH WITH SUBSET;ELEMENT OF OPENING DOWNWARDS
PITCHFORK WITH TEE TOP;TRANSVERSAL INTERSECTION;FORKING;NONFORKING;SHORT LEFT TACK
SHORT DOWN TACK;SHORT UP TACK;PERPENDICULAR WITH S;VERTICAL BAR TRIPLE RIGHT TURNSTILE
DOUBLE VERTICAL BAR LEFT TURNSTILE;VERTICAL BAR DOUBLE LEFT TURNSTILE
DOUBLE VERTICAL BAR DOUBLE LEFT TURNSTILE;LONG DASH FROM LEFT MEMBER OF DOUBLE VERTICAL
SHORT DOWN TACK WITH OVERBAR;SHORT UP TACK WITH UNDERBAR;SHORT UP TACK ABOVE SHORT DOWN TACK
DOUBLE DOWN TACK;DOUBLE UP TACK;DOUBLE STROKE NOT SIGN;REVERSED DOUBLE STROKE NOT SIGN
DOES NOT DIVIDE WITH REVERSED NEGATION SLASH;VERTICAL LINE WITH CIRCLE ABOVE
VERTICAL LINE WITH CIRCLE BELOW;DOWN TACK WITH CIRCLE BELOW;PARALLEL WITH HORIZONTAL STROKE
PARALLEL WITH TILDE OPERATOR;TRIPLE VERTICAL BAR BINARY RELATION
TRIPLE VERTICAL BAR WITH HORIZONTAL STROKE;TRIPLE COLON OPERATOR;TRIPLE NESTED LESS-THAN
TRIPLE NESTED GREATER-THAN;DOUBLE-LINE SLANTED LESS-THAN OR EQUAL TO
DOUBLE-LINE SLANTED GREATER-THAN OR EQUAL TO;TRIPLE SOLIDUS BINARY RELATION
LARGE TRIPLE VERTICAL BAR OPERATOR;DOUBLE SOLIDUS OPERATOR;WHITE VERTICAL BAR
N-ARY WHITE VERTICAL BAR;NORTH EAST WHITE ARROW;NORTH WEST WHITE ARROW;SOUTH EAST WHITE ARROW
SOUTH WEST WHITE ARROW;LEFT RIGHT WHITE ARROW;LEFTWARDS BLACK ARROW;UPWARDS BLACK ARROW
DOWNWARDS BLACK ARROW;NORTH EAST BLACK ARROW;NORTH WEST BLACK ARROW;SOUTH EAST BLACK ARROW
SOUTH WEST BLACK ARROW;LEFT RIGHT BLACK ARROW;UP DOWN BLACK ARROW
RIGHTWARDS ARROW WITH TIP DOWNWARDS;RIGHTWARDS ARROW WITH TIP UPWARDS
LEFTWARDS ARROW WITH TIP DOWNWARDS;LEFTWARDS ARROW WITH TIP UPWARDS;SQUARE WITH TOP HALF BLACK
SQUARE WITH BOTTOM HALF BLACK;SQUARE WITH UPPER RIGHT DIAGONAL HALF BLACK
SQUARE WITH LOWER LEFT DIAGONAL HALF BLACK;DIAMOND WITH LEFT HALF BLACK
DIAMOND WITH RIGHT HALF BLACK;DIAMOND WITH TOP HALF BLACK;DIAMOND WITH BOTTOM HALF BLACK
DOTTED SQUARE;BLACK LARGE SQUARE;WHITE LARGE SQUARE;BLACK VERY SMALL SQUARE
WHITE VERY SMALL SQUARE;BLACK PENTAGON;WHITE PENTAGON;WHITE HEXAGON;BLACK HEXAGON
HORIZONTAL BLACK HEXAGON;BLACK LARGE CIRCLE;BLACK MEDIUM DIAMOND;WHITE MEDIUM DIAMOND
BLACK MEDIUM LOZENGE;WHITE MEDIUM LOZENGE;BLACK SMALL DIAMOND;BLACK SMALL LOZENGE
WHITE SMALL LOZENGE;BLACK HORIZONTAL ELLIPSE;WHITE HORIZONTAL ELLIPSE;BLACK VERTICAL ELLIPSE
WHITE VERTICAL ELLIPSE;LEFT ARROW WITH SMALL CIRCLE;THREE LEFTWARDS ARROWS
LEFT ARROW WITH CIRCLED PLUS;LONG LEFTWARDS SQUIGGLE ARROW
LEFTWARDS TWO-HEADED ARROW WITH VERTICAL STROKE
LEFTWARDS TWO-HEADED ARROW WITH DOUBLE VERTICAL STROKE;LEFTWARDS TWO-HEADED ARROW FROM BAR
LEFTWARDS TWO-HEADED TRIPLE DASH ARROW;LEFTWARDS ARROW WITH DOTTED STEM
LEFTWARDS ARROW WITH TAIL WITH VERTICAL STROKE
LEFTWARDS ARROW WITH TAIL WITH DOUBLE VERTICAL STROKE;LEFTWARDS TWO-HEADED ARROW WITH TAIL
LEFTWARDS TWO-HEADED ARROW WITH TAIL WITH VERTICAL STROKE
LEFTWARDS TWO-HEADED ARROW WITH TAIL WITH DOUBLE VERTICAL STROKE;LEFTWARDS ARROW THROUGH X
WAVE ARROW POINTING DIRECTLY LEFT;EQUALS SIGN ABOVE LEFTWARDS ARROW
REVERSE TILDE OPERATOR ABOVE LEFTWARDS ARROW;LEFTWARDS ARROW ABOVE REVERSE ALMOST EQUAL TO
RIGHTWARDS ARROW THROUGH GREATER-THAN;RIGHTWARDS ARROW THROUGH SUPERSET;LEFTWARDS QUADRUPLE ARROW
RIGHTWARDS QUADRUPLE ARROW;REVERSE TILDE OPERATOR ABOVE RIGHTWARDS ARROW
RIGHTWARDS ARROW ABOVE REVERSE ALMOST EQUAL TO;TILDE OPERATOR ABOVE LEFTWARDS ARROW
LEFTWARDS ARROW ABOVE ALMOST EQUAL TO;LEFTWARDS ARROW ABOVE REVERSE TILDE OPERATOR
RIGHTWARDS ARROW ABOVE REVERSE TILDE OPERATOR;DOWNWARDS TRIANGLE-HEADED ZIGZAG ARROW
SHORT SLANTED NORTH ARROW;SHORT BACKSLANTED SOUTH ARROW;WHITE MEDIUM STAR;BLACK SMALL STAR
WHITE SMALL STAR;BLACK RIGHT-POINTING PENTAGON;WHITE RIGHT-POINTING PENTAGON;HEAVY LARGE CIRCLE
HEAVY OVAL WITH OVAL INSIDE;HEAVY CIRCLE WITH CIRCLE INSIDE;HEAVY CIRCLE;HEAVY CIRCLED SALTIRE
SLANTED NORTH ARROW WITH HOOKED HEAD;BACKSLANTED SOUTH ARROW WITH HOOKED TAIL
SLANTED NORTH ARROW WITH HORIZONTAL TAIL;BACKSLANTED SOUTH ARROW WITH HORIZONTAL TAIL
BENT ARROW POINTING DOWNWARDS THEN NORTH EAST;SHORT BENT ARROW POINTING DOWNWARDS THEN NORTH EAST
LEFTWARDS TRIANGLE-HEADED ARROW;UPWARDS TRIANGLE-HEADED ARROW;RIGHTWARDS TRIANGLE-HEADED ARROW
DOWNWARDS TRIANGLE-HEADED ARROW;LEFT RIGHT TRIANGLE-HEADED ARROW;UP DOWN TRIANGLE-HEADED ARROW
NORTH WEST TRIANGLE-HEADED ARROW;NORTH EAST TRIANGLE-HEADED ARROW
SOUTH EAST TRIANGLE-HEADED ARROW;SOUTH WEST TRIANGLE-HEADED ARROW
LEFTWARDS TRIANGLE-HEADED DASHED ARROW;UPWARDS TRIANGLE-HEADED DASHED ARROW
RIGHTWARDS TRIANGLE-HEADED DASHED ARROW;DOWNWARDS TRIANGLE-HEADED DASHED ARROW
CLOCKWISE TRIANGLE-HEADED OPEN CIRCLE ARROW;ANTICLOCKWISE TRIANGLE-HEADED OPEN CIRCLE ARROW
LEFTWARDS TRIANGLE-HEADED ARROW TO BAR;UPWARDS TRIANGLE-HEADED ARROW TO BAR
RIGHTWARDS TRIANGLE-HEADED ARROW TO BAR;DOWNWARDS TRIANGLE-HEADED ARROW TO BAR"),
  (0x2b76, "NORTH WEST TRIANGLE-HEADED ARROW TO BAR;NORTH EAST TRIANGLE-HEADED ARROW TO BAR
SOUTH EAST TRIANGLE-HEADED ARROW TO BAR;SOUTH WEST TRIANGLE-HEADED ARROW TO BAR
LEFTWARDS TRIANGLE-HEADED ARROW WITH DOUBLE HORIZONTAL STROKE
UPWARDS TRIANGLE-HEADED ARROW WITH DOUBLE HORIZONTAL STROKE
RIGHTWARDS TRIANGLE-HEADED ARROW WITH DOUBLE HORIZONTAL STROKE
DOWNWARDS TRIANGLE-HEADED ARROW WITH DOUBLE HORIZONTAL STROKE;HORIZONTAL TAB KEY;VERTICAL TAB KEY
LEFTWARDS TRIANGLE-HEADED ARROW OVER RIGHTWARDS TRIANGLE-HEADED ARROW
UPWARDS TRIANGLE-HEADED ARROW LEFTWARDS OF DOWNWARDS TRIANGLE-HEADED ARROW
RIGHTWARDS TRIANGLE-HEADED ARROW OVER LEFTWARDS TRIANGLE-HEADED ARROW
DOWNWARDS TRIANGLE-HEADED ARROW LEFTWARDS OF UPWARDS TRIANGLE-HEADED ARROW
LEFTWARDS TRIANGLE-HEADED PAIRED ARROWS;UPWARDS TRIANGLE-HEADED PAIRED ARROWS
RIGHTWARDS TRIANGLE-HEADED PAIRED ARROWS;DOWNWARDS TRIANGLE-HEADED PAIRED ARROWS
LEFTWARDS BLACK CIRCLED WHITE ARROW;UPWARDS BLACK CIRCLED WHITE ARROW
RIGHTWARDS BLACK CIRCLED WHITE ARROW;DOWNWARDS BLACK CIRCLED WHITE ARROW
ANTICLOCKWISE TRIANGLE-HEADED RIGHT U-SHAPED ARROW
ANTICLOCKWISE TRIANGLE-HEADED BOTTOM U-SHAPED ARROW
ANTICLOCKWISE TRIANGLE-HEADED LEFT U-SHAPED ARROW
ANTICLOCKWISE TRIANGLE-HEADED TOP U-SHAPED ARROW;RETURN LEFT;RETURN RIGHT;NEWLINE LEFT
NEWLINE RIGHT;FOUR CORNER ARROWS CIRCLING ANTICLOCKWISE;RIGHTWARDS BLACK ARROW"),
  (0x2b97, "SYMBOL FOR TYPE A ELECTRONICS;THREE-D TOP-LIGHTED LEFTWARDS EQUILATERAL ARROWHEAD
THREE-D RIGHT-LIGHTED UPWARDS EQUILATERAL ARROWHEAD
THREE-D TOP-LIGHTED RIGHTWARDS EQUILATERAL ARROWHEAD
THREE-D LEFT-LIGHTED DOWNWARDS EQUILATERAL ARROWHEAD;BLACK LEFTWARDS EQUILATERAL ARROWHEAD
BLACK UPWARDS EQUILATERAL ARROWHEAD;BLACK RIGHTWARDS EQUILATERAL ARROWHEAD
BLACK DOWNWARDS EQUILATERAL ARROWHEAD;DOWNWARDS TRIANGLE-HEADED ARROW WITH LONG TIP LEFTWARDS
DOWNWARDS TRIANGLE-HEADED ARROW WITH LONG TIP RIGHTWARDS
UPWARDS TRIANGLE-HEADED ARROW WITH LONG TIP LEFTWARDS
UPWARDS TRIANGLE-HEADED ARROW WITH LONG TIP RIGHTWARDS
LEFTWARDS TRIANGLE-HEADED ARROW WITH LONG TIP UPWARDS
RIGHTWARDS TRIANGLE-HEADED ARROW WITH LONG TIP UPWARDS
LEFTWARDS TRIANGLE-HEADED ARROW WITH LONG TIP DOWNWARDS
RIGHTWARDS TRIANGLE-HEADED ARROW WITH LONG TIP DOWNWARDS
BLACK CURVED DOWNWARDS AND LEFTWARDS ARROW;BLACK CURVED DOWNWARDS AND RIGHTWARDS ARROW
BLACK CURVED UPWARDS AND LEFTWARDS ARROW;BLACK CURVED UPWARDS AND RIGHTWARDS ARROW
BLACK CURVED LEFTWARDS AND UPWARDS ARROW;BLACK CURVED RIGHTWARDS AND UPWARDS ARROW
BLACK CURVED LEFTWARDS AND DOWNWARDS ARROW;BLACK CURVED RIGHTWARDS AND DOWNWARDS ARROW
RIBBON ARROW DOWN LEFT;RIBBON ARROW DOWN RIGHT;RIBBON ARROW UP LEFT;RIBBON ARROW UP RIGHT
RIBBON ARROW LEFT UP;RIBBON ARROW RIGHT UP;RIBBON ARROW LEFT DOWN;RIBBON ARROW RIGHT DOWN
UPWARDS WHITE ARROW FROM BAR WITH HORIZONTAL BAR;UP ARROWHEAD IN A RECTANGLE BOX
OVERLAPPING WHITE SQUARES;OVERLAPPING WHITE AND BLACK SQUARES;OVERLAPPING BLACK SQUARES
BALLOT BOX WITH LIGHT X;CIRCLED X;CIRCLED BOLD X;BLACK SQUARE CENTRED;BLACK DIAMOND CENTRED
TURNED BLACK PENTAGON;HORIZONTAL BLACK OCTAGON;BLACK OCTAGON
BLACK MEDIUM UP-POINTING TRIANGLE CENTRED;BLACK MEDIUM DOWN-POINTING TRIANGLE CENTRED
BLACK MEDIUM LEFT-POINTING TRIANGLE CENTRED;BLACK MEDIUM RIGHT-POINTING TRIANGLE CENTRED
NEPTUNE FORM TWO;TOP HALF BLACK CIRCLE;BOTTOM HALF BLACK CIRCLE;LIGHT FOUR POINTED BLACK CUSP
ROTATED LIGHT FOUR POINTED BLACK CUSP;WHITE FOUR POINTED CUSP;ROTATED WHITE FOUR POINTED CUSP
SQUARE POSITION INDICATOR;UNCERTAINTY SIGN;GROUP MARK;PLUTO FORM TWO;PLUTO FORM THREE
PLUTO FORM FOUR;PLUTO FORM FIVE;TRANSPLUTO;PROSERPINA;ASTRAEA;HYGIEA;PHOLUS;NESSUS
WHITE MOON SELENA;BLACK DIAMOND ON CROSS;TRUE LIGHT MOON ARTA;CUPIDO;HADES;ZEUS;KRONOS;APOLLON
ADMETOS;VULCANUS;POSEIDON;LEFT HALF BLACK STAR;RIGHT HALF BLACK STAR;STAR WITH LEFT HALF BLACK
STAR WITH RIGHT HALF BLACK;LEFTWARDS TWO-HEADED ARROW WITH TRIANGLE ARROWHEADS
UPWARDS TWO-HEADED ARROW WITH TRIANGLE ARROWHEADS
RIGHTWARDS TWO-HEADED ARROW WITH TRIANGLE ARROWHEADS
DOWNWARDS TWO-HEADED ARROW WITH TRIANGLE ARROWHEADS;ERIS FORM ONE;ERIS FORM TWO;SEDNA
RUSSIAN ASTROLOGICAL SYMBOL VIGINTILE;RUSSIAN ASTROLOGICAL SYMBOL NOVILE
RUSSIAN ASTROLOGICAL SYMBOL QUINTILE;RUSSIAN ASTROLOGICAL SYMBOL BINOVILE
RUSSIAN ASTROLOGICAL SYMBOL SENTAGON;RUSSIAN ASTROLOGICAL SYMBOL TREDECILE
EQUALS SIGN WITH INFINITY BELOW;UNITED SYMBOL;SEPARATED SYMBOL;DOUBLED SYMBOL;PASSED SYMBOL
REVERSED RIGHT ANGLE;HELLSCHREIBER PAUSE SYMBOL;GLAGOLITIC CAPITAL LETTER AZU
GLAGOLITIC CAPITAL LETTER BUKY;GLAGOLITIC CAPITAL LETTER VEDE;GLAGOLITIC CAPITAL LETTER GLAGOLI
GLAGOLITIC CAPITAL LETTER DOBRO;GLAGOLITIC CAPITAL LETTER YESTU;GLAGOLITIC CAPITAL LETTER ZHIVETE
GLAGOLITIC CAPITAL LETTER DZELO;GLAGOLITIC CAPITAL LETTER ZEMLJA;GLAGOLITIC CAPITAL LETTER IZHE
GLAGOLITIC CAPITAL LETTER INITIAL IZHE;GLAGOLITIC CAPITAL LETTER I
GLAGOLITIC CAPITAL LETTER DJERVI;GLAGOLITIC CAPITAL LETTER KAKO;GLAGOLITIC CAPITAL LETTER LJUDIJE
GLAGOLITIC CAPITAL LETTER MYSLITE;GLAGOLITIC CAPITAL LETTER NASHI;GLAGOLITIC CAPITAL LETTER ONU
GLAGOLITIC CAPITAL LETTER POKOJI;GLAGOLITIC CAPITAL LETTER RITSI;GLAGOLITIC CAPITAL LETTER SLOVO
GLAGOLITIC CAPITAL LETTER TVRIDO;GLAGOLITIC CAPITAL LETTER UKU;GLAGOLITIC CAPITAL LETTER FRITU
GLAGOLITIC CAPITAL LETTER HERU;GLAGOLITIC CAPITAL LETTER OTU;GLAGOLITIC CAPITAL LETTER PE
GLAGOLITIC CAPITAL LETTER SHTA;GLAGOLITIC CAPITAL LETTER TSI;GLAGOLITIC CAPITAL LETTER CHRIVI
GLAGOLITIC CAPITAL LETTER SHA;GLAGOLITIC CAPITAL LETTER YERU;GLAGOLITIC CAPITAL LETTER YERI
GLAGOLITIC CAPITAL LETTER YATI;GLAGOLITIC CAPITAL LETTER SPIDERY HA;GLAGOLITIC CAPITAL LETTER YU
GLAGOLITIC CAPITAL LETTER SMALL YUS;GLAGOLITIC CAPITAL LETTER SMALL YUS WITH TAIL
GLAGOLITIC CAPITAL LETTER YO;GLAGOLITIC CAPITAL LETTER IOTATED SMALL YUS
GLAGOLITIC CAPITAL LETTER BIG YUS;GLAGOLITIC CAPITAL LETTER IOTATED BIG YUS
GLAGOLITIC CAPITAL LETTER FITA;GLAGOLITIC CAPITAL LETTER IZHITSA
GLAGOLITIC CAPITAL LETTER SHTAPIC;GLAGOLITIC CAPITAL LETTER TROKUTASTI A
GLAGOLITIC CAPITAL LETTER LATINATE MYSLITE;GLAGOLITIC CAPITAL LETTER CAUDATE CHRIVI
GLAGOLITIC SMALL LETTER AZU;GLAGOLITIC SMALL LETTER BUKY;GLAGOLITIC SMALL LETTER VEDE
GLAGOLITIC SMALL LETTER GLAGOLI;GLAGOLITIC SMALL LETTER DOBRO;GLAGOLITIC SMALL LETTER YESTU
GLAGOLITIC SMALL LETTER ZHIVETE;GLAGOLITIC SMALL LETTER DZELO;GLAGOLITIC SMALL LETTER ZEMLJA
GLAGOLITIC SMALL LETTER IZHE;GLAGOLITIC SMALL LETTER INITIAL IZHE;GLAGOLITIC SMALL LETTER I
GLAGOLITIC SMALL LETTER DJERVI;GLAGOLITIC SMALL LETTER KAKO;GLAGOLITIC SMALL LETTER LJUDIJE
GLAGOLITIC SMALL LETTER MYSLITE;GLAGOLITIC SMALL LETTER NASHI;GLAGOLITIC SMALL LETTER ONU
GLAGOLITIC SMALL LETTER POKOJI;GLAGOLITIC SMALL LETTER RITSI;GLAGOLITIC SMALL LETTER SLOVO
GLAGOLITIC SMALL LETTER TVRIDO;GLAGOLITIC SMALL LETTER UKU;GLAGOLITIC SMALL LETTER FRITU
GLAGOLITIC SMALL LETTER HERU;GLAGOLITIC SMALL LETTER OTU;GLAGOLITIC SMALL LETTER PE
GLAGOLITIC SMALL LETTER SHTA;GLAGOLITIC SMALL LETTER TSI;GLAGOLITIC SMALL LETTER CHRIVI
GLAGOLITIC SMALL LETTER SHA;GLAGOLITIC SMALL LETTER YERU;GLAGOLITIC SMALL LETTER YERI
GLAGOLITIC SMALL LETTER YATI;GLAGOLITIC SMALL LETTER SPIDERY HA;GLAGOLITIC SMALL LETTER YU
GLAGOLITIC SMALL LETTER SMALL YUS;GLAGOLITIC SMALL LETTER SMALL YUS WITH TAIL
GLAGOLITIC SMALL LETTER YO;GLAGOLITIC SMALL LETTER IOTATED SMALL YUS
GLAGOLITIC SMALL LETTER BIG YUS;GLAGOLITIC SMALL LETTER IOTATED BIG YUS
GLAGOLITIC SMALL LETTER FITA;GLAGOLITIC SMALL LETTER IZHITSA;GLAGOLITIC SMALL LETTER SHTAPIC
GLAGOLITIC SMALL LETTER TROKUTASTI A;GLAGOLITIC SMALL LETTER LATINATE MYSLITE
GLAGOLITIC SMALL LETTER CAUDATE CHRIVI;LATIN CAPITAL LETTER L WITH DOUBLE BAR
LATIN SMALL LETTER L WITH DOUBLE BAR;LATIN CAPITAL LETTER L WITH MIDDLE TILDE
LATIN CAPITAL LETTER P WITH STROKE;LATIN CAPITAL LETTER R WITH TAIL
LATIN SMALL LETTER A WITH STROKE;LATIN SMALL LETTER T WITH DIAGONAL STROKE
LATIN CAPITAL LETTER H WITH DESCENDER;LATIN SMALL LETTER H WITH DESCENDER
LATIN CAPITAL LETTER K WITH DESCENDER;LATIN SMALL LETTER K WITH DESCENDER
LATIN CAPITAL LETTER Z WITH DESCENDER;LATIN SMALL LETTER Z WITH DESCENDER
LATIN CAPITAL LETTER ALPHA;LATIN CAPITAL LETTER M WITH HOOK;LATIN CAPITAL LETTER TURNED A
LATIN CAPITAL LETTER TURNED ALPHA;LATIN SMALL LETTER V WITH RIGHT HOOK
LATIN CAPITAL LETTER W WITH HOOK;LATIN SMALL LETTER W WITH HOOK;LATIN SMALL LETTER V WITH CURL
LATIN CAPITAL LETTER HALF H;LATIN SMALL LETTER HALF H;LATIN SMALL LETTER TAILLESS PHI
LATIN SMALL LETTER E WITH NOTCH;LATIN SMALL LETTER TURNED R WITH TAIL
LATIN SMALL LETTER O WITH LOW RING INSIDE;LATIN LETTER SMALL CAPITAL TURNED E
LATIN SUBSCRIPT SMALL LETTER J;MODIFIER LETTER CAPITAL V;LATIN CAPITAL LETTER S WITH SWASH TAIL
LATIN CAPITAL LETTER Z WITH SWASH TAIL;COPTIC CAPITAL LETTER ALFA;COPTIC SMALL LETTER ALFA
COPTIC CAPITAL LETTER VIDA;COPTIC SMALL LETTER VIDA;COPTIC CAPITAL LETTER GAMMA
COPTIC SMALL LETTER GAMMA;COPTIC CAPITAL LETTER DALDA;COPTIC SMALL LETTER DALDA
COPTIC CAPITAL LETTER EIE;COPTIC SMALL LETTER EIE;COPTIC CAPITAL LETTER SOU
COPTIC SMALL LETTER SOU;COPTIC CAPITAL LETTER ZATA;COPTIC SMALL LETTER ZATA
COPTIC CAPITAL LETTER HATE;COPTIC SMALL LETTER HATE;COPTIC CAPITAL LETTER THETHE
COPTIC SMALL LETTER THETHE;COPTIC CAPITAL LETTER IAUDA;COPTIC SMALL LETTER IAUDA
COPTIC CAPITAL LETTER KAPA;COPTIC SMALL LETTER KAPA;COPTIC CAPITAL LETTER LAULA
COPTIC SMALL LETTER LAULA;COPTIC CAPITAL LETTER MI;COPTIC SMALL LETTER MI
COPTIC CAPITAL LETTER NI;COPTIC SMALL LETTER NI;COPTIC CAPITAL LETTER KSI;COPTIC SMALL LETTER KSI
COPTIC CAPITAL LETTER O;COPTIC SMALL LETTER O;COPTIC CAPITAL LETTER PI;COPTIC SMALL LETTER PI
COPTIC CAPITAL LETTER RO;COPTIC SMALL LETTER RO;COPTIC CAPITAL LETTER SIMA
COPTIC SMALL LETTER SIMA;COPTIC CAPITAL LETTER TAU;COPTIC SMALL LETTER TAU
COPTIC CAPITAL LETTER UA;COPTIC SMALL LETTER UA;COPTIC CAPITAL LETTER FI;COPTIC SMALL LETTER FI
COPTIC CAPITAL LETTER KHI;COPTIC SMALL LETTER KHI;COPTIC CAPITAL LETTER PSI
COPTIC SMALL LETTER PSI;COPTIC CAPITAL LETTER OOU;COPTIC SMALL LETTER OOU
COPTIC CAPITAL LETTER DIALECT-P ALEF;COPTIC SMALL LETTER DIALECT-P ALEF
COPTIC CAPITAL LETTER OLD COPTIC AIN;COPTIC SMALL LETTER OLD COPTIC AIN
COPTIC CAPITAL LETTER CRYPTOGRAMMIC EIE;COPTIC SMALL LETTER CRYPTOGRAMMIC EIE
COPTIC CAPITAL LETTER DIALECT-P KAPA;COPTIC SMALL LETTER DIALECT-P KAPA
COPTIC CAPITAL LETTER DIALECT-P NI;COPTIC SMALL LETTER DIALECT-P NI
COPTIC CAPITAL LETTER CRYPTOGRAMMIC NI;COPTIC SMALL LETTER CRYPTOGRAMMIC NI
COPTIC CAPITAL LETTER OLD COPTIC OOU;COPTIC SMALL LETTER OLD COPTIC OOU
COPTIC CAPITAL LETTER SAMPI;COPTIC SMALL LETTER SAMPI;COPTIC CAPITAL LETTER CROSSED SHEI
COPTIC SMALL LETTER CROSSED SHEI;COPTIC CAPITAL LETTER OLD COPTIC SHEI
COPTIC SMALL LETTER OLD COPTIC SHEI;COPTIC CAPITAL LETTER OLD COPTIC ESH
COPTIC SMALL LETTER OLD COPTIC ESH;COPTIC CAPITAL LETTER AKHMIMIC KHEI
COPTIC SMALL LETTER AKHMIMIC KHEI;COPTIC CAPITAL LETTER DIALECT-P HORI
COPTIC SMALL LETTER DIALECT-P HORI;COPTIC CAPITAL LETTER OLD COPTIC HORI
COPTIC SMALL LETTER OLD COPTIC HORI;COPTIC CAPITAL LETTER OLD COPTIC HA
COPTIC SMALL LETTER OLD COPTIC HA;COPTIC CAPITAL LETTER L-SHAPED HA
COPTIC SMALL LETTER L-SHAPED HA;COPTIC CAPITAL LETTER OLD COPTIC HEI
COPTIC SMALL LETTER OLD COPTIC HEI;COPTIC CAPITAL LETTER OLD COPTIC HAT
COPTIC SMALL LETTER OLD COPTIC HAT;COPTIC CAPITAL LETTER OLD COPTIC GANGIA
COPTIC SMALL LETTER OLD COPTIC GANGIA;COPTIC CAPITAL LETTER OLD COPTIC DJA
COPTIC SMALL LETTER OLD COPTIC DJA;COPTIC CAPITAL LETTER OLD COPTIC SHIMA
COPTIC SMALL LETTER OLD COPTIC SHIMA;COPTIC CAPITAL LETTER OLD NUBIAN SHIMA
COPTIC SMALL LETTER OLD NUBIAN SHIMA;COPTIC CAPITAL LETTER OLD NUBIAN NGI
COPTIC SMALL LETTER OLD NUBIAN NGI;COPTIC CAPITAL LETTER OLD NUBIAN NYI
COPTIC SMALL LETTER OLD NUBIAN NYI;COPTIC CAPITAL LETTER OLD NUBIAN WAU
COPTIC SMALL LETTER OLD NUBIAN WAU;COPTIC SYMBOL KAI;COPTIC SYMBOL MI RO;COPTIC SYMBOL PI RO
COPTIC SYMBOL STAUROS;COPTIC SYMBOL TAU RO;COPTIC SYMBOL KHI RO;COPTIC SYMBOL SHIMA SIMA
COPTIC CAPITAL LETTER CRYPTOGRAMMIC SHEI;COPTIC SMALL LETTER CRYPTOGRAMMIC SHEI
COPTIC CAPITAL LETTER CRYPTOGRAMMIC GANGIA;COPTIC SMALL LETTER CRYPTOGRAMMIC GANGIA
COPTIC COMBINING NI ABOVE;COPTIC COMBINING SPIRITUS ASPER;COPTIC COMBINING SPIRITUS LENIS
COPTIC CAPITAL LETTER BOHAIRIC KHEI;COPTIC SMALL LETTER BOHAIRIC KHEI"),
  (0x2cf9, "COPTIC OLD NUBIAN FULL STOP;COPTIC OLD NUBIAN DIRECT QUESTION MARK
COPTIC OLD NUBIAN INDIRECT QUESTION MARK;COPTIC OLD NUBIAN VERSE DIVIDER;COPTIC FRACTION ONE HALF
COPTIC FULL STOP;COPTIC MORPHOLOGICAL DIVIDER;GEORGIAN SMALL LETTER AN;GEORGIAN SMALL LETTER BAN
GEORGIAN SMALL LETTER GAN;GEORGIAN SMALL LETTER DON;GEORGIAN SMALL LETTER EN
GEORGIAN SMALL LETTER VIN;GEORGIAN SMALL LETTER ZEN;GEORGIAN SMALL LETTER TAN
GEORGIAN SMALL LETTER IN;GEORGIAN SMALL LETTER KAN;GEORGIAN SMALL LETTER LAS
GEORGIAN SMALL LETTER MAN;GEORGIAN SMALL LETTER NAR;GEORGIAN SMALL LETTER ON
GEORGIAN SMALL LETTER PAR;GEORGIAN SMALL LETTER ZHAR;GEORGIAN SMALL LETTER RAE
GEORGIAN SMALL LETTER SAN;GEORGIAN SMALL LETTER TAR;GEORGIAN SMALL LETTER UN
GEORGIAN SMALL LETTER PHAR;GEORGIAN SMALL LETTER KHAR;GEORGIAN SMALL LETTER GHAN
GEORGIAN SMALL LETTER QAR;GEORGIAN SMALL LETTER SHIN;GEORGIAN SMALL LETTER CHIN
GEORGIAN SMALL LETTER CAN;GEORGIAN SMALL LETTER JIL;GEORGIAN SMALL LETTER CIL
GEORGIAN SMALL LETTER CHAR;GEORGIAN SMALL LETTER XAN;GEORGIAN SMALL LETTER JHAN
GEORGIAN SMALL LETTER HAE;GEORGIAN SMALL LETTER HE;GEORGIAN SMALL LETTER HIE
GEORGIAN SMALL LETTER WE;GEORGIAN SMALL LETTER HAR;GEORGIAN SMALL LETTER HOE"),
  (0x2d27, "GEORGIAN SMALL LETTER YN"),
  (0x2d2d, "GEORGIAN SMALL LETTER AEN"),
  (0x2d30, "TIFINAGH LETTER YA;TIFINAGH LETTER YAB;TIFINAGH LETTER YABH;TIFINAGH LETTER YAG
TIFINAGH LETTER YAGHH;TIFINAGH LETTER BERBER ACADEMY YAJ;TIFINAGH LETTER YAJ;TIFINAGH LETTER YAD
TIFINAGH LETTER YADH;TIFINAGH LETTER YADD;TIFINAGH LETTER YADDH;TIFINAGH LETTER YEY
TIFINAGH LETTER YAF;TIFINAGH LETTER YAK;TIFINAGH LETTER TUAREG YAK;TIFINAGH LETTER YAKHH
TIFINAGH LETTER YAH;TIFINAGH LETTER BERBER ACADEMY YAH;TIFINAGH LETTER TUAREG YAH
TIFINAGH LETTER YAHH;TIFINAGH LETTER YAA;TIFINAGH LETTER YAKH;TIFINAGH LETTER TUAREG YAKH
TIFINAGH LETTER YAQ;TIFINAGH LETTER TUAREG YAQ;TIFINAGH LETTER YI;TIFINAGH LETTER YAZH
TIFINAGH LETTER AHAGGAR YAZH;TIFINAGH LETTER TUAREG YAZH;TIFINAGH LETTER YAL;TIFINAGH LETTER YAM
TIFINAGH LETTER YAN;TIFINAGH LETTER TUAREG YAGN;TIFINAGH LETTER TUAREG YANG;TIFINAGH LETTER YAP
TIFINAGH LETTER YU;TIFINAGH LETTER YAR;TIFINAGH LETTER YARR;TIFINAGH LETTER YAGH
TIFINAGH LETTER TUAREG YAGH;TIFINAGH LETTER AYER YAGH;TIFINAGH LETTER YAS;TIFINAGH LETTER YASS
TIFINAGH LETTER YASH;TIFINAGH LETTER YAT;TIFINAGH LETTER YATH;TIFINAGH LETTER YACH
TIFINAGH LETTER YATT;TIFINAGH LETTER YAV;TIFINAGH LETTER YAW;TIFINAGH LETTER YAY
TIFINAGH LETTER YAZ;TIFINAGH LETTER TAWELLEMET YAZ;TIFINAGH LETTER YAZZ;TIFINAGH LETTER YE
TIFINAGH LETTER YO"),
  (0x2d6f, "TIFINAGH MODIFIER LETTER LABIALIZATION MARK;TIFINAGH SEPARATOR MARK"),
  (0x2d7f, "TIFINAGH CONSONANT JOINER;ETHIOPIC SYLLABLE LOA;ETHIOPIC SYLLABLE MOA
ETHIOPIC SYLLABLE ROA;ETHIOPIC SYLLABLE SOA;ETHIOPIC SYLLABLE SHOA;ETHIOPIC SYLLABLE BOA
ETHIOPIC SYLLABLE TOA;ETHIOPIC SYLLABLE COA;ETHIOPIC SYLLABLE NOA;ETHIOPIC SYLLABLE NYOA
ETHIOPIC SYLLABLE GLOTTAL OA;ETHIOPIC SYLLABLE ZOA;ETHIOPIC SYLLABLE DOA;ETHIOPIC SYLLABLE DDOA
ETHIOPIC SYLLABLE JOA;ETHIOPIC SYLLABLE THOA;ETHIOPIC SYLLABLE CHOA;ETHIOPIC SYLLABLE PHOA
ETHIOPIC SYLLABLE POA;ETHIOPIC SYLLABLE GGWA;ETHIOPIC SYLLABLE GGWI;ETHIOPIC SYLLABLE GGWEE
ETHIOPIC SYLLABLE GGWE"),
  (0x2da0, "ETHIOPIC SYLLABLE SSA;ETHIOPIC SYLLABLE SSU;ETHIOPIC SYLLABLE SSI
ETHIOPIC SYLLABLE SSAA;ETHIOPIC SYLLABLE SSEE;ETHIOPIC SYLLABLE SSE;ETHIOPIC SYLLABLE SSO"),
  (0x2da8, "ETHIOPIC SYLLABLE CCA;ETHIOPIC SYLLABLE CCU;ETHIOPIC SYLLABLE CCI
ETHIOPIC SYLLABLE CCAA;ETHIOPIC SYLLABLE CCEE;ETHIOPIC SYLLABLE CCE;ETHIOPIC SYLLABLE CCO"),
  (0x2db0, "ETHIOPIC SYLLABLE ZZA;ETHIOPIC SYLLABLE ZZU;ETHIOPIC SYLLABLE ZZI
ETHIOPIC SYLLABLE ZZAA;ETHIOPIC SYLLABLE ZZEE;ETHIOPIC SYLLABLE ZZE;ETHIOPIC SYLLABLE ZZO"),
  (0x2db8, "ETHIOPIC SYLLABLE CCHA;ETHIOPIC SYLLABLE CCHU;ETHIOPIC SYLLABLE CCHI
ETHIOPIC SYLLABLE CCHAA;ETHIOPIC SYLLABLE CCHEE;ETHIOPIC SYLLABLE CCHE;ETHIOPIC SYLLABLE CCHO"),
  (0x2dc0, "ETHIOPIC SYLLABLE QYA;ETHIOPIC SYLLABLE QYU;ETHIOPIC SYLLABLE QYI
ETHIOPIC SYLLABLE QYAA;ETHIOPIC SYLLABLE QYEE;ETHIOPIC SYLLABLE QYE;ETHIOPIC SYLLABLE QYO"),
  (0x2dc8, "ETHIOPIC SYLLABLE KYA;ETHIOPIC SYLLABLE KYU;ETHIOPIC SYLLABLE KYI
ETHIOPIC SYLLABLE KYAA;ETHIOPIC SYLLABLE KYEE;ETHIOPIC SYLLABLE KYE;ETHIOPIC SYLLABLE KYO"),
  (0x2dd0, "ETHIOPIC SYLLABLE XYA;ETHIOPIC SYLLABLE XYU;ETHIOPIC SYLLABLE XYI
ETHIOPIC SYLLABLE XYAA;ETHIOPIC SYLLABLE XYEE;ETHIOPIC SYLLABLE XYE;ETHIOPIC SYLLABLE XYO"),
  (0x2dd8, "ETHIOPIC SYLLABLE GYA;ETHIOPIC SYLLABLE GYU;ETHIOPIC SYLLABLE GYI
ETHIOPIC SYLLABLE GYAA;ETHIOPIC SYLLABLE GYEE;ETHIOPIC SYLLABLE GYE;ETHIOPIC SYLLABLE GYO"),
  (0x2de0, "COMBINING CYRILLIC LETTER BE;COMBINING CYRILLIC LETTER VE
COMBINING CYRILLIC LETTER GHE;COMBINING CYRILLIC LETTER DE;COMBINING CYRILLIC LETTER ZHE
COMBINING CYRILLIC LETTER ZE;COMBINING CYRILLIC LETTER KA;COMBINING CYRILLIC LETTER EL
COMBINING CYRILLIC LETTER EM;COMBINING CYRILLIC LETTER EN;COMBINING CYRILLIC LETTER O
COMBINING CYRILLIC LETTER PE;COMBINING CYRILLIC LETTER ER;COMBINING CYRILLIC LETTER ES
COMBINING CYRILLIC LETTER TE;COMBINING CYRILLIC LETTER HA;COMBINING CYRILLIC LETTER TSE
COMBINING CYRILLIC LETTER CHE;COMBINING CYRILLIC LETTER SHA;COMBINING CYRILLIC LETTER SHCHA
COMBINING CYRILLIC LETTER FITA;COMBINING CYRILLIC LETTER ES-TE;COMBINING CYRILLIC LETTER A
COMBINING CYRILLIC LETTER IE;COMBINING CYRILLIC LETTER DJERV
COMBINING CYRILLIC LETTER MONOGRAPH UK;COMBINING CYRILLIC LETTER YAT;COMBINING CYRILLIC LETTER YU
COMBINING CYRILLIC LETTER IOTIFIED A;COMBINING CYRILLIC LETTER LITTLE YUS
COMBINING CYRILLIC LETTER BIG YUS;COMBINING CYRILLIC LETTER IOTIFIED BIG YUS
RIGHT ANGLE SUBSTITUTION MARKER;RIGHT ANGLE DOTTED SUBSTITUTION MARKER;LEFT SUBSTITUTION BRACKET
RIGHT SUBSTITUTION BRACKET;LEFT DOTTED SUBSTITUTION BRACKET;RIGHT DOTTED SUBSTITUTION BRACKET
RAISED INTERPOLATION MARKER;RAISED DOTTED INTERPOLATION MARKER;DOTTED TRANSPOSITION MARKER
LEFT TRANSPOSITION BRACKET;RIGHT TRANSPOSITION BRACKET;RAISED SQUARE;LEFT RAISED OMISSION BRACKET
RIGHT RAISED OMISSION BRACKET;EDITORIAL CORONIS;PARAGRAPHOS;FORKED PARAGRAPHOS
REVERSED FORKED PARAGRAPHOS;HYPODIASTOLE;DOTTED OBELOS;DOWNWARDS ANCORA;UPWARDS ANCORA
DOTTED RIGHT-POINTING ANGLE;DOUBLE OBLIQUE HYPHEN;INVERTED INTERROBANG;PALM BRANCH
HYPHEN WITH DIAERESIS;TILDE WITH RING ABOVE;LEFT LOW PARAPHRASE BRACKET
RIGHT LOW PARAPHRASE BRACKET;TILDE WITH DOT ABOVE;TILDE WITH DOT BELOW
LEFT VERTICAL BAR WITH QUILL;RIGHT VERTICAL BAR WITH QUILL;TOP LEFT HALF BRACKET
TOP RIGHT HALF BRACKET;BOTTOM LEFT HALF BRACKET;BOTTOM RIGHT HALF BRACKET;LEFT SIDEWAYS U BRACKET
RIGHT SIDEWAYS U BRACKET;LEFT DOUBLE PARENTHESIS;RIGHT DOUBLE PARENTHESIS
TWO DOTS OVER ONE DOT PUNCTUATION;ONE DOT OVER TWO DOTS PUNCTUATION;SQUARED FOUR DOT PUNCTUATION
FIVE DOT MARK;REVERSED QUESTION MARK;VERTICAL TILDE;RING POINT;WORD SEPARATOR MIDDLE DOT
TURNED COMMA;RAISED DOT;RAISED COMMA;TURNED SEMICOLON;DAGGER WITH LEFT GUARD
DAGGER WITH RIGHT GUARD;TURNED DAGGER;TOP HALF SECTION SIGN;TWO-EM DASH;THREE-EM DASH
STENOGRAPHIC FULL STOP;VERTICAL SIX DOTS;WIGGLY VERTICAL LINE;CAPITULUM;DOUBLE HYPHEN
REVERSED COMMA;DOUBLE LOW-REVERSED-9 QUOTATION MARK;DASH WITH LEFT UPTURN;DOUBLE SUSPENSION MARK
INVERTED LOW KAVYKA;INVERTED LOW KAVYKA WITH KAVYKA ABOVE;LOW KAVYKA;LOW KAVYKA WITH DOT
DOUBLE STACKED COMMA;DOTTED SOLIDUS;TRIPLE DAGGER;MEDIEVAL COMMA;PARAGRAPHUS MARK
PUNCTUS ELEVATUS MARK;CORNISH VERSE DIVIDER;CROSS PATTY WITH RIGHT CROSSBAR
CROSS PATTY WITH LEFT CROSSBAR;TIRONIAN SIGN CAPITAL ET;MEDIEVAL EXCLAMATION MARK
MEDIEVAL QUESTION MARK;LEFT SQUARE BRACKET WITH STROKE;RIGHT SQUARE BRACKET WITH STROKE
LEFT SQUARE BRACKET WITH DOUBLE STROKE;RIGHT SQUARE BRACKET WITH DOUBLE STROKE
TOP HALF LEFT PARENTHESIS;TOP HALF RIGHT PARENTHESIS;BOTTOM HALF LEFT PARENTHESIS
BOTTOM HALF RIGHT PARENTHESIS;OBLIQUE HYPHEN"),
  (0x2e80, "CJK RADICAL REPEAT;CJK RADICAL CLIFF;CJK RADICAL SECOND ONE;CJK RADICAL SECOND TWO
CJK RADICAL SECOND THREE;CJK RADICAL PERSON;CJK RADICAL BOX;CJK RADICAL TABLE
CJK RADICAL KNIFE ONE;CJK RADICAL KNIFE TWO;CJK RADICAL DIVINATION;CJK RADICAL SEAL
CJK RADICAL SMALL ONE;CJK RADICAL SMALL TWO;CJK RADICAL LAME ONE;CJK RADICAL LAME TWO
CJK RADICAL LAME THREE;CJK RADICAL LAME FOUR;CJK RADICAL SNAKE;CJK RADICAL THREAD
CJK RADICAL SNOUT ONE;CJK RADICAL SNOUT TWO;CJK RADICAL HEART ONE;CJK RADICAL HEART TWO
CJK RADICAL HAND;CJK RADICAL RAP"),
  (0x2e9b, "CJK RADICAL CHOKE;CJK RADICAL SUN;CJK RADICAL MOON;CJK RADICAL DEATH
CJK RADICAL MOTHER;CJK RADICAL CIVILIAN;CJK RADICAL WATER ONE;CJK RADICAL WATER TWO
CJK RADICAL FIRE;CJK RADICAL PAW ONE;CJK RADICAL PAW TWO;CJK RADICAL SIMPLIFIED HALF TREE TRUNK
CJK RADICAL COW;CJK RADICAL DOG;CJK RADICAL JADE;CJK RADICAL BOLT OF CLOTH;CJK RADICAL EYE
CJK RADICAL SPIRIT ONE;CJK RADICAL SPIRIT TWO;CJK RADICAL BAMBOO;CJK RADICAL SILK
CJK RADICAL C-SIMPLIFIED SILK;CJK RADICAL NET ONE;CJK RADICAL NET TWO;CJK RADICAL NET THREE
CJK RADICAL NET FOUR;CJK RADICAL MESH;CJK RADICAL SHEEP;CJK RADICAL RAM;CJK RADICAL EWE
CJK RADICAL OLD;CJK RADICAL BRUSH ONE;CJK RADICAL BRUSH TWO;CJK RADICAL MEAT;CJK RADICAL MORTAR
CJK RADICAL GRASS ONE;CJK RADICAL GRASS TWO;CJK RADICAL GRASS THREE;CJK RADICAL TIGER
CJK RADICAL CLOTHES;CJK RADICAL WEST ONE;CJK RADICAL WEST TWO;CJK RADICAL C-SIMPLIFIED SEE
CJK RADICAL SIMPLIFIED HORN;CJK RADICAL HORN;CJK RADICAL C-SIMPLIFIED SPEECH
CJK RADICAL C-SIMPLIFIED SHELL;CJK RADICAL FOOT;CJK RADICAL C-SIMPLIFIED CART
CJK RADICAL SIMPLIFIED WALK;CJK RADICAL WALK ONE;CJK RADICAL WALK TWO;CJK RADICAL CITY
CJK RADICAL C-SIMPLIFIED GOLD;CJK RADICAL LONG ONE;CJK RADICAL LONG TWO
CJK RADICAL C-SIMPLIFIED LONG;CJK RADICAL C-SIMPLIFIED GATE;CJK RADICAL MOUND ONE
CJK RADICAL MOUND TWO;CJK RADICAL RAIN;CJK RADICAL BLUE;CJK RADICAL C-SIMPLIFIED TANNED LEATHER
CJK RADICAL C-SIMPLIFIED LEAF;CJK RADICAL C-SIMPLIFIED WIND;CJK RADICAL C-SIMPLIFIED FLY
CJK RADICAL EAT ONE;CJK RADICAL EAT TWO;CJK RADICAL EAT THREE;CJK RADICAL C-SIMPLIFIED EAT
CJK RADICAL HEAD;CJK RADICAL C-SIMPLIFIED HORSE;CJK RADICAL BONE;CJK RADICAL GHOST
CJK RADICAL C-SIMPLIFIED FISH;CJK RADICAL C-SIMPLIFIED BIRD;CJK RADICAL C-SIMPLIFIED SALT
CJK RADICAL SIMPLIFIED WHEAT;CJK RADICAL SIMPLIFIED YELLOW;CJK RADICAL C-SIMPLIFIED FROG
CJK RADICAL J-SIMPLIFIED EVEN;CJK RADICAL C-SIMPLIFIED EVEN;CJK RADICAL J-SIMPLIFIED TOOTH
CJK RADICAL C-SIMPLIFIED TOOTH;CJK RADICAL J-SIMPLIFIED DRAGON;CJK RADICAL C-SIMPLIFIED DRAGON
CJK RADICAL TURTLE;CJK RADICAL J-SIMPLIFIED TURTLE;CJK RADICAL C-SIMPLIFIED TURTLE"),
  (0x2f00, "KANGXI RADICAL ONE;KANGXI RADICAL LINE;KANGXI RADICAL DOT;KANGXI RADICAL SLASH
KANGXI RADICAL SECOND;KANGXI RADICAL HOOK;KANGXI RADICAL TWO;KANGXI RADICAL LID
KANGXI RADICAL MAN;KANGXI RADICAL LEGS;KANGXI RADICAL ENTER;KANGXI RADICAL EIGHT
KANGXI RADICAL DOWN BOX;KANGXI RADICAL COVER;KANGXI RADICAL ICE;KANGXI RADICAL TABLE
KANGXI RADICAL OPEN BOX;KANGXI RADICAL KNIFE;KANGXI RADICAL POWER;KANGXI RADICAL WRAP
KANGXI RADICAL SPOON;KANGXI RADICAL RIGHT OPEN BOX;KANGXI RADICAL HIDING ENCLOSURE
KANGXI RADICAL TEN;KANGXI RADICAL DIVINATION;KANGXI RADICAL SEAL;KANGXI RADICAL CLIFF
KANGXI RADICAL PRIVATE;KANGXI RADICAL AGAIN;KANGXI RADICAL MOUTH;KANGXI RADICAL ENCLOSURE
KANGXI RADICAL EARTH;KANGXI RADICAL SCHOLAR;KANGXI RADICAL GO;KANGXI RADICAL GO SLOWLY
KANGXI RADICAL EVENING;KANGXI RADICAL BIG;KANGXI RADICAL WOMAN;KANGXI RADICAL CHILD
KANGXI RADICAL ROOF;KANGXI RADICAL INCH;KANGXI RADICAL SMALL;KANGXI RADICAL LAME
KANGXI RADICAL CORPSE;KANGXI RADICAL SPROUT;KANGXI RADICAL MOUNTAIN;KANGXI RADICAL RIVER
KANGXI RADICAL WORK;KANGXI RADICAL ONESELF;KANGXI RADICAL TURBAN;KANGXI RADICAL DRY
KANGXI RADICAL SHORT THREAD;KANGXI RADICAL DOTTED CLIFF;KANGXI RADICAL LONG STRIDE
KANGXI RADICAL TWO HANDS;KANGXI RADICAL SHOOT;KANGXI RADICAL BOW;KANGXI RADICAL SNOUT
KANGXI RADICAL BRISTLE;KANGXI RADICAL STEP;KANGXI RADICAL HEART;KANGXI RADICAL HALBERD
KANGXI RADICAL DOOR;KANGXI RADICAL HAND;KANGXI RADICAL BRANCH;KANGXI RADICAL RAP
KANGXI RADICAL SCRIPT;KANGXI RADICAL DIPPER;KANGXI RADICAL AXE;KANGXI RADICAL SQUARE
KANGXI RADICAL NOT;KANGXI RADICAL SUN;KANGXI RADICAL SAY;KANGXI RADICAL MOON;KANGXI RADICAL TREE
KANGXI RADICAL LACK;KANGXI RADICAL STOP;KANGXI RADICAL DEATH;KANGXI RADICAL WEAPON
KANGXI RADICAL DO NOT;KANGXI RADICAL COMPARE;KANGXI RADICAL FUR;KANGXI RADICAL CLAN
KANGXI RADICAL STEAM;KANGXI RADICAL WATER;KANGXI RADICAL FIRE;KANGXI RADICAL CLAW
KANGXI RADICAL FATHER;KANGXI RADICAL DOUBLE X;KANGXI RADICAL HALF TREE TRUNK;KANGXI RADICAL SLICE
KANGXI RADICAL FANG;KANGXI RADICAL COW;KANGXI RADICAL DOG;KANGXI RADICAL PROFOUND
KANGXI RADICAL JADE;KANGXI RADICAL MELON;KANGXI RADICAL TILE;KANGXI RADICAL SWEET
KANGXI RADICAL LIFE;KANGXI RADICAL USE;KANGXI RADICAL FIELD;KANGXI RADICAL BOLT OF CLOTH
KANGXI RADICAL SICKNESS;KANGXI RADICAL DOTTED TENT;KANGXI RADICAL WHITE;KANGXI RADICAL SKIN
KANGXI RADICAL DISH;KANGXI RADICAL EYE;KANGXI RADICAL SPEAR;KANGXI RADICAL ARROW
KANGXI RADICAL STONE;KANGXI RADICAL SPIRIT;KANGXI RADICAL TRACK;KANGXI RADICAL GRAIN
KANGXI RADICAL CAVE;KANGXI RADICAL STAND;KANGXI RADICAL BAMBOO;KANGXI RADICAL RICE
KANGXI RADICAL SILK;KANGXI RADICAL JAR;KANGXI RADICAL NET;KANGXI RADICAL SHEEP
KANGXI RADICAL FEATHER;KANGXI RADICAL OLD;KANGXI RADICAL AND;KANGXI RADICAL PLOW
KANGXI RADICAL EAR;KANGXI RADICAL BRUSH;KANGXI RADICAL MEAT;KANGXI RADICAL MINISTER
KANGXI RADICAL SELF;KANGXI RADICAL ARRIVE;KANGXI RADICAL MORTAR;KANGXI RADICAL TONGUE
KANGXI RADICAL OPPOSE;KANGXI RADICAL BOAT;KANGXI RADICAL STOPPING;KANGXI RADICAL COLOR
KANGXI RADICAL GRASS;KANGXI RADICAL TIGER;KANGXI RADICAL INSECT;KANGXI RADICAL BLOOD
KANGXI RADICAL WALK ENCLOSURE;KANGXI RADICAL CLOTHES;KANGXI RADICAL WEST;KANGXI RADICAL SEE
KANGXI RADICAL HORN;KANGXI RADICAL SPEECH;KANGXI RADICAL VALLEY;KANGXI RADICAL BEAN
KANGXI RADICAL PIG;KANGXI RADICAL BADGER;KANGXI RADICAL SHELL;KANGXI RADICAL RED
KANGXI RADICAL RUN;KANGXI RADICAL FOOT;KANGXI RADICAL BODY;KANGXI RADICAL CART
KANGXI RADICAL BITTER;KANGXI RADICAL MORNING;KANGXI RADICAL WALK;KANGXI RADICAL CITY
KANGXI RADICAL WINE;KANGXI RADICAL DISTINGUISH;KANGXI RADICAL VILLAGE;KANGXI RADICAL GOLD
KANGXI RADICAL LONG;KANGXI RADICAL GATE;KANGXI RADICAL MOUND;KANGXI RADICAL SLAVE
KANGXI RADICAL SHORT TAILED BIRD;KANGXI RADICAL RAIN;KANGXI RADICAL BLUE;KANGXI RADICAL WRONG
KANGXI RADICAL FACE;KANGXI RADICAL LEATHER;KANGXI RADICAL TANNED LEATHER;KANGXI RADICAL LEEK
KANGXI RADICAL SOUND;KANGXI RADICAL LEAF;KANGXI RADICAL WIND;KANGXI RADICAL FLY
KANGXI RADICAL EAT;KANGXI RADICAL HEAD;KANGXI RADICAL FRAGRANT;KANGXI RADICAL HORSE
KANGXI RADICAL BONE;KANGXI RADICAL TALL;KANGXI RADICAL HAIR;KANGXI RADICAL FIGHT
KANGXI RADICAL SACRIFICIAL WINE;KANGXI RADICAL CAULDRON;KANGXI RADICAL GHOST;KANGXI RADICAL FISH
KANGXI RADICAL BIRD;KANGXI RADICAL SALT;KANGXI RADICAL DEER;KANGXI RADICAL WHEAT
KANGXI RADICAL HEMP;KANGXI RADICAL YELLOW;KANGXI RADICAL MILLET;KANGXI RADICAL BLACK
KANGXI RADICAL EMBROIDERY;KANGXI RADICAL FROG;KANGXI RADICAL TRIPOD;KANGXI RADICAL DRUM
KANGXI RADICAL RAT;KANGXI RADICAL NOSE;KANGXI RADICAL EVEN;KANGXI RADICAL TOOTH
KANGXI RADICAL DRAGON;KANGXI RADICAL TURTLE;KANGXI RADICAL FLUTE"),
  (0x2ff0, "IDEOGRAPHIC DESCRIPTION CHARACTER LEFT TO RIGHT
IDEOGRAPHIC DESCRIPTION CHARACTER ABOVE TO BELOW
IDEOGRAPHIC DESCRIPTION CHARACTER LEFT TO MIDDLE AND RIGHT
IDEOGRAPHIC DESCRIPTION CHARACTER ABOVE TO MIDDLE AND BELOW
IDEOGRAPHIC DESCRIPTION CHARACTER FULL SURROUND
IDEOGRAPHIC DESCRIPTION CHARACTER SURROUND FROM ABOVE
IDEOGRAPHIC DESCRIPTION CHARACTER SURROUND FROM BELOW
IDEOGRAPHIC DESCRIPTION CHARACTER SURROUND FROM LEFT
IDEOGRAPHIC DESCRIPTION CHARACTER SURROUND FROM UPPER LEFT
IDEOGRAPHIC DESCRIPTION CHARACTER SURROUND FROM UPPER RIGHT
IDEOGRAPHIC DESCRIPTION CHARACTER SURROUND FROM LOWER LEFT
IDEOGRAPHIC DESCRIPTION CHARACTER OVERLAID"),
  (0x3000, "IDEOGRAPHIC SPACE;IDEOGRAPHIC COMMA;IDEOGRAPHIC FULL STOP;DITTO MARK
JAPANESE INDUSTRIAL STANDARD SYMBOL;IDEOGRAPHIC ITERATION MARK;IDEOGRAPHIC CLOSING MARK
IDEOGRAPHIC NUMBER ZERO;LEFT ANGLE BRACKET;RIGHT ANGLE BRACKET;LEFT DOUBLE ANGLE BRACKET
RIGHT DOUBLE ANGLE BRACKET;LEFT CORNER BRACKET;RIGHT CORNER BRACKET;LEFT WHITE CORNER BRACKET
RIGHT WHITE CORNER BRACKET;LEFT BLACK LENTICULAR BRACKET;RIGHT BLACK LENTICULAR BRACKET
POSTAL MARK;GETA MARK;LEFT TORTOISE SHELL BRACKET;RIGHT TORTOISE SHELL BRACKET
LEFT WHITE LENTICULAR BRACKET;RIGHT WHITE LENTICULAR BRACKET;LEFT WHITE TORTOISE SHELL BRACKET
RIGHT WHITE TORTOISE SHELL BRACKET;LEFT WHITE SQUARE BRACKET;RIGHT WHITE SQUARE BRACKET;WAVE DASH
REVERSED DOUBLE PRIME QUOTATION MARK;DOUBLE PRIME QUOTATION MARK;LOW DOUBLE PRIME QUOTATION MARK
POSTAL MARK FACE;HANGZHOU NUMERAL ONE;HANGZHOU NUMERAL TWO;HANGZHOU NUMERAL THREE
HANGZHOU NUMERAL FOUR;HANGZHOU NUMERAL FIVE;HANGZHOU NUMERAL SIX;HANGZHOU NUMERAL SEVEN
HANGZHOU NUMERAL EIGHT;HANGZHOU NUMERAL NINE;IDEOGRAPHIC LEVEL TONE MARK
IDEOGRAPHIC RISING TONE MARK;IDEOGRAPHIC DEPARTING TONE MARK;IDEOGRAPHIC ENTERING TONE MARK
HANGUL SINGLE DOT TONE MARK;HANGUL DOUBLE DOT TONE MARK;WAVY DASH;VERTICAL KANA REPEAT MARK
VERTICAL KANA REPEAT WITH VOICED SOUND MARK;VERTICAL KANA REPEAT MARK UPPER HALF
VERTICAL KANA REPEAT WITH VOICED SOUND MARK UPPER HALF;VERTICAL KANA REPEAT MARK LOWER HALF
CIRCLED POSTAL MARK;IDEOGRAPHIC TELEGRAPH LINE FEED SEPARATOR SYMBOL;HANGZHOU NUMERAL TEN
HANGZHOU NUMERAL TWENTY;HANGZHOU NUMERAL THIRTY;VERTICAL IDEOGRAPHIC ITERATION MARK;MASU MARK
PART ALTERNATION MARK;IDEOGRAPHIC VARIATION INDICATOR;IDEOGRAPHIC HALF FILL SPACE"),
  (0x3041, "HIRAGANA LETTER SMALL A;HIRAGANA LETTER A;HIRAGANA LETTER SMALL I;HIRAGANA LETTER I
HIRAGANA LETTER SMALL U;HIRAGANA LETTER U;HIRAGANA LETTER SMALL E;HIRAGANA LETTER E
HIRAGANA LETTER SMALL O;HIRAGANA LETTER O;HIRAGANA LETTER KA;HIRAGANA LETTER GA
HIRAGANA LETTER KI;HIRAGANA LETTER GI;HIRAGANA LETTER KU;HIRAGANA LETTER GU;HIRAGANA LETTER KE
HIRAGANA LETTER GE;HIRAGANA LETTER KO;HIRAGANA LETTER GO;HIRAGANA LETTER SA;HIRAGANA LETTER ZA
HIRAGANA LETTER SI;HIRAGANA LETTER ZI;HIRAGANA LETTER SU;HIRAGANA LETTER ZU;HIRAGANA LETTER SE
HIRAGANA LETTER ZE;HIRAGANA LETTER SO;HIRAGANA LETTER ZO;HIRAGANA LETTER TA;HIRAGANA LETTER DA
HIRAGANA LETTER TI;HIRAGANA LETTER DI;HIRAGANA LETTER SMALL TU;HIRAGANA LETTER TU
HIRAGANA LETTER DU;HIRAGANA LETTER TE;HIRAGANA LETTER DE;HIRAGANA LETTER TO;HIRAGANA LETTER DO
HIRAGANA LETTER NA;HIRAGANA LETTER NI;HIRAGANA LETTER NU;HIRAGANA LETTER NE;HIRAGANA LETTER NO
HIRAGANA LETTER HA;HIRAGANA LETTER BA;HIRAGANA LETTER PA;HIRAGANA LETTER HI;HIRAGANA LETTER BI
HIRAGANA LETTER PI;HIRAGANA LETTER HU;HIRAGANA LETTER BU;HIRAGANA LETTER PU;HIRAGANA LETTER HE
HIRAGANA LETTER BE;HIRAGANA LETTER PE;HIRAGANA LETTER HO;HIRAGANA LETTER BO;HIRAGANA LETTER PO
HIRAGANA LETTER MA;HIRAGANA LETTER MI;HIRAGANA LETTER MU;HIRAGANA LETTER ME;HIRAGANA LETTER MO
HIRAGANA LETTER SMALL YA;HIRAGANA LETTER YA;HIRAGANA LETTER SMALL YU;HIRAGANA LETTER YU
HIRAGANA LETTER SMALL YO;HIRAGANA LETTER YO;HIRAGANA LETTER RA;HIRAGANA LETTER RI
HIRAGANA LETTER RU;HIRAGANA LETTER RE;HIRAGANA LETTER RO;HIRAGANA LETTER SMALL WA
HIRAGANA LETTER WA;HIRAGANA LETTER WI;HIRAGANA LETTER WE;HIRAGANA LETTER WO;HIRAGANA LETTER N
HIRAGANA LETTER VU;HIRAGANA LETTER SMALL KA;HIRAGANA LETTER SMALL KE"),
  (0x3099, "COMBINING KATAKANA-HIRAGANA VOICED SOUND MARK
COMBINING KATAKANA-HIRAGANA SEMI-VOICED SOUND MARK;KATAKANA-HIRAGANA VOICED SOUND MARK
KATAKANA-HIRAGANA SEMI-VOICED SOUND MARK;HIRAGANA ITERATION MARK;HIRAGANA VOICED ITERATION MARK
HIRAGANA DIGRAPH YORI;KATAKANA-HIRAGANA DOUBLE HYPHEN;KATAKANA LETTER SMALL A;KATAKANA LETTER A
KATAKANA LETTER SMALL I;KATAKANA LETTER I;KATAKANA LETTER SMALL U;KATAKANA LETTER U
KATAKANA LETTER SMALL E;KATAKANA LETTER E;KATAKANA LETTER SMALL O;KATAKANA LETTER O
KATAKANA LETTER KA;KATAKANA LETTER GA;KATAKANA LETTER KI;KATAKANA LETTER GI;KATAKANA LETTER KU
KATAKANA LETTER GU;KATAKANA LETTER KE;KATAKANA LETTER GE;KATAKANA LETTER KO;KATAKANA LETTER GO
KATAKANA LETTER SA;KATAKANA LETTER ZA;KATAKANA LETTER SI;KATAKANA LETTER ZI;KATAKANA LETTER SU
KATAKANA LETTER ZU;KATAKANA LETTER SE;KATAKANA LETTER ZE;KATAKANA LETTER SO;KATAKANA LETTER ZO
KATAKANA LETTER TA;KATAKANA LETTER DA;KATAKANA LETTER TI;KATAKANA LETTER DI
KATAKANA LETTER SMALL TU;KATAKANA LETTER TU;KATAKANA LETTER DU;KATAKANA LETTER TE
KATAKANA LETTER DE;KATAKANA LETTER TO;KATAKANA LETTER DO;KATAKANA LETTER NA;KATAKANA LETTER NI
KATAKANA LETTER NU;KATAKANA LETTER NE;KATAKANA LETTER NO;KATAKANA LETTER HA;KATAKANA LETTER BA
KATAKANA LETTER PA;KATAKANA LETTER HI;KATAKANA LETTER BI;KATAKANA LETTER PI;KATAKANA LETTER HU
KATAKANA LETTER BU;KATAKANA LETTER PU;KATAKANA LETTER HE;KATAKANA LETTER BE;KATAKANA LETTER PE
KATAKANA LETTER HO;KATAKANA LETTER BO;KATAKANA LETTER PO;KATAKANA LETTER MA;KATAKANA LETTER MI
KATAKANA LETTER MU;KATAKANA LETTER ME;KATAKANA LETTER MO;KATAKANA LETTER SMALL YA
KATAKANA LETTER YA;KATAKANA LETTER SMALL YU;KATAKANA LETTER YU;KATAKANA LETTER SMALL YO
KATAKANA LETTER YO;KATAKANA LETTER RA;KATAKANA LETTER RI;KATAKANA LETTER RU;KATAKANA LETTER RE
KATAKANA LETTER RO;KATAKANA LETTER SMALL WA;KATAKANA LETTER WA;KATAKANA LETTER WI
KATAKANA LETTER WE;KATAKANA LETTER WO;KATAKANA LETTER N;KATAKANA LETTER VU
KATAKANA LETTER SMALL KA;KATAKANA LETTER SMALL KE;KATAKANA LETTER VA;KATAKANA LETTER VI
KATAKANA LETTER VE;KATAKANA LETTER VO;KATAKANA MIDDLE DOT;KATAKANA-HIRAGANA PROLONGED SOUND MARK
KATAKANA ITERATION MARK;KATAKANA VOICED ITERATION MARK;KATAKANA DIGRAPH KOTO"),
  (0x3105, "BOPOMOFO LETTER B;BOPOMOFO LETTER P;BOPOMOFO LETTER M;BOPOMOFO LETTER F
BOPOMOFO LETTER D;BOPOMOFO LETTER T;BOPOMOFO LETTER N;BOPOMOFO LETTER L;BOPOMOFO LETTER G
BOPOMOFO LETTER K;BOPOMOFO LETTER H;BOPOMOFO LETTER J;BOPOMOFO LETTER Q;BOPOMOFO LETTER X
BOPOMOFO LETTER ZH;BOPOMOFO LETTER CH;BOPOMOFO LETTER SH;BOPOMOFO LETTER R;BOPOMOFO LETTER Z
BOPOMOFO LETTER C;BOPOMOFO LETTER S;BOPOMOFO LETTER A;BOPOMOFO LETTER O;BOPOMOFO LETTER E
BOPOMOFO LETTER EH;BOPOMOFO LETTER AI;BOPOMOFO LETTER EI;BOPOMOFO LETTER AU;BOPOMOFO LETTER OU
BOPOMOFO LETTER AN;BOPOMOFO LETTER EN;BOPOMOFO LETTER ANG;BOPOMOFO LETTER ENG;BOPOMOFO LETTER ER
BOPOMOFO LETTER I;BOPOMOFO LETTER U;BOPOMOFO LETTER IU;BOPOMOFO LETTER V;BOPOMOFO LETTER NG
BOPOMOFO LETTER GN;BOPOMOFO LETTER IH;BOPOMOFO LETTER O WITH DOT ABOVE;BOPOMOFO LETTER NN"),
  (0x3131, "HANGUL LETTER KIYEOK;HANGUL LETTER SSANGKIYEOK;HANGUL LETTER KIYEOK-SIOS
HANGUL LETTER NIEUN;HANGUL LETTER NIEUN-CIEUC;HANGUL LETTER NIEUN-HIEUH;HANGUL LETTER TIKEUT
HANGUL LETTER SSANGTIKEUT;HANGUL LETTER RIEUL;HANGUL LETTER RIEUL-KIYEOK
HANGUL LETTER RIEUL-MIEUM;HANGUL LETTER RIEUL-PIEUP;HANGUL LETTER RIEUL-SIOS
HANGUL LETTER RIEUL-THIEUTH;HANGUL LETTER RIEUL-PHIEUPH;HANGUL LETTER RIEUL-HIEUH
HANGUL LETTER MIEUM;HANGUL LETTER PIEUP;HANGUL LETTER SSANGPIEUP;HANGUL LETTER PIEUP-SIOS
HANGUL LETTER SIOS;HANGUL LETTER SSANGSIOS;HANGUL LETTER IEUNG;HANGUL LETTER CIEUC
HANGUL LETTER SSANGCIEUC;HANGUL LETTER CHIEUCH;HANGUL LETTER KHIEUKH;HANGUL LETTER THIEUTH
HANGUL LETTER PHIEUPH;HANGUL LETTER HIEUH;HANGUL LETTER A;HANGUL LETTER AE;HANGUL LETTER YA
HANGUL LETTER YAE;HANGUL LETTER EO;HANGUL LETTER E;HANGUL LETTER YEO;HANGUL LETTER YE
HANGUL LETTER O;HANGUL LETTER WA;HANGUL LETTER WAE;HANGUL LETTER OE;HANGUL LETTER YO
HANGUL LETTER U;HANGUL LETTER WEO;HANGUL LETTER WE;HANGUL LETTER WI;HANGUL LETTER YU
HANGUL LETTER EU;HANGUL LETTER YI;HANGUL LETTER I;HANGUL FILLER;HANGUL LETTER SSANGNIEUN
HANGUL LETTER NIEUN-TIKEUT;HANGUL LETTER NIEUN-SIOS;HANGUL LETTER NIEUN-PANSIOS
HANGUL LETTER RIEUL-KIYEOK-SIOS;HANGUL LETTER RIEUL-TIKEUT;HANGUL LETTER RIEUL-PIEUP-SIOS
HANGUL LETTER RIEUL-PANSIOS;HANGUL LETTER RIEUL-YEORINHIEUH;HANGUL LETTER MIEUM-PIEUP
HANGUL LETTER MIEUM-SIOS;HANGUL LETTER MIEUM-PANSIOS;HANGUL LETTER KAPYEOUNMIEUM
HANGUL LETTER PIEUP-KIYEOK;HANGUL LETTER PIEUP-TIKEUT;HANGUL LETTER PIEUP-SIOS-KIYEOK
HANGUL LETTER PIEUP-SIOS-TIKEUT;HANGUL LETTER PIEUP-CIEUC;HANGUL LETTER PIEUP-THIEUTH
HANGUL LETTER KAPYEOUNPIEUP;HANGUL LETTER KAPYEOUNSSANGPIEUP;HANGUL LETTER SIOS-KIYEOK
HANGUL LETTER SIOS-NIEUN;HANGUL LETTER SIOS-TIKEUT;HANGUL LETTER SIOS-PIEUP
HANGUL LETTER SIOS-CIEUC;HANGUL LETTER PANSIOS;HANGUL LETTER SSANGIEUNG;HANGUL LETTER YESIEUNG
HANGUL LETTER YESIEUNG-SIOS;HANGUL LETTER YESIEUNG-PANSIOS;HANGUL LETTER KAPYEOUNPHIEUPH
HANGUL LETTER SSANGHIEUH;HANGUL LETTER YEORINHIEUH;HANGUL LETTER YO-YA;HANGUL LETTER YO-YAE
HANGUL LETTER YO-I;HANGUL LETTER YU-YEO;HANGUL LETTER YU-YE;HANGUL LETTER YU-I
HANGUL LETTER ARAEA;HANGUL LETTER ARAEAE"),
  (0x3190, "IDEOGRAPHIC ANNOTATION LINKING MARK;IDEOGRAPHIC ANNOTATION REVERSE MARK
IDEOGRAPHIC ANNOTATION ONE MARK;IDEOGRAPHIC ANNOTATION TWO MARK;IDEOGRAPHIC ANNOTATION THREE MARK
IDEOGRAPHIC ANNOTATION FOUR MARK;IDEOGRAPHIC ANNOTATION TOP MARK
IDEOGRAPHIC ANNOTATION MIDDLE MARK;IDEOGRAPHIC ANNOTATION BOTTOM MARK
IDEOGRAPHIC ANNOTATION FIRST MARK;IDEOGRAPHIC ANNOTATION SECOND MARK
IDEOGRAPHIC ANNOTATION THIRD MARK;IDEOGRAPHIC ANNOTATION FOURTH MARK
IDEOGRAPHIC ANNOTATION HEAVEN MARK;IDEOGRAPHIC ANNOTATION EARTH MARK
IDEOGRAPHIC ANNOTATION MAN MARK;BOPOMOFO LETTER BU;BOPOMOFO LETTER ZI;BOPOMOFO LETTER JI
BOPOMOFO LETTER GU;BOPOMOFO LETTER EE;BOPOMOFO LETTER ENN;BOPOMOFO LETTER OO;BOPOMOFO LETTER ONN
BOPOMOFO LETTER IR;BOPOMOFO LETTER ANN;BOPOMOFO LETTER INN;BOPOMOFO LETTER UNN;BOPOMOFO LETTER IM
BOPOMOFO LETTER NGG;BOPOMOFO LETTER AINN;BOPOMOFO LETTER AUNN;BOPOMOFO LETTER AM
BOPOMOFO LETTER OM;BOPOMOFO LETTER ONG;BOPOMOFO LETTER INNN;BOPOMOFO FINAL LETTER P
BOPOMOFO FINAL LETTER T;BOPOMOFO FINAL LETTER K;BOPOMOFO FINAL LETTER H;BOPOMOFO LETTER GH
BOPOMOFO LETTER LH;BOPOMOFO LETTER ZY;BOPOMOFO FINAL LETTER G;BOPOMOFO LETTER GW
BOPOMOFO LETTER KW;BOPOMOFO LETTER OE;BOPOMOFO LETTER AH;CJK STROKE T;CJK STROKE WG;CJK STROKE XG
CJK STROKE BXG;CJK STROKE SW;CJK STROKE HZZ;CJK STROKE HZG;CJK STROKE HP;CJK STROKE HZWG
CJK STROKE SZWG;CJK STROKE HZT;CJK STROKE HZZP;CJK STROKE HPWG;CJK STROKE HZW;CJK STROKE HZZZ
CJK STROKE N;CJK STROKE H;CJK STROKE S;CJK STROKE P;CJK STROKE SP;CJK STROKE D;CJK STROKE HZ
CJK STROKE HG;CJK STROKE SZ;CJK STROKE SWZ;CJK STROKE ST;CJK STROKE SG;CJK STROKE PD
CJK STROKE PZ;CJK STROKE TN;CJK STROKE SZZ;CJK STROKE SWG;CJK STROKE HXWG;CJK STROKE HZZZG
CJK STROKE PG;CJK STROKE Q"),
  (0x31f0, "KATAKANA LETTER SMALL KU;KATAKANA LETTER SMALL SI;KATAKANA LETTER SMALL SU
KATAKANA LETTER SMALL TO;KATAKANA LETTER SMALL NU;KATAKANA LETTER SMALL HA
KATAKANA LETTER SMALL HI;KATAKANA LETTER SMALL HU;KATAKANA LETTER SMALL HE
KATAKANA LETTER SMALL HO;KATAKANA LETTER SMALL MU;KATAKANA LETTER SMALL RA
KATAKANA LETTER SMALL RI;KATAKANA LETTER SMALL RU;KATAKANA LETTER SMALL RE
KATAKANA LETTER SMALL RO;PARENTHESIZED HANGUL KIYEOK;PARENTHESIZED HANGUL NIEUN
PARENTHESIZED HANGUL TIKEUT;PARENTHESIZED HANGUL RIEUL;PARENTHESIZED HANGUL MIEUM
PARENTHESIZED HANGUL PIEUP;PARENTHESIZED HANGUL SIOS;PARENTHESIZED HANGUL IEUNG
PARENTHESIZED HANGUL CIEUC;PARENTHESIZED HANGUL CHIEUCH;PARENTHESIZED HANGUL KHIEUKH
PARENTHESIZED HANGUL THIEUTH;PARENTHESIZED HANGUL PHIEUPH;PARENTHESIZED HANGUL HIEUH
PARENTHESIZED HANGUL KIYEOK A;PARENTHESIZED HANGUL NIEUN A;PARENTHESIZED HANGUL TIKEUT A
PARENTHESIZED HANGUL RIEUL A;PARENTHESIZED HANGUL MIEUM A;PARENTHESIZED HANGUL PIEUP A
PARENTHESIZED HANGUL SIOS A;PARENTHESIZED HANGUL IEUNG A;PARENTHESIZED HANGUL CIEUC A
PARENTHESIZED HANGUL CHIEUCH A;PARENTHESIZED HANGUL KHIEUKH A;PARENTHESIZED HANGUL THIEUTH A
PARENTHESIZED HANGUL PHIEUPH A;PARENTHESIZED HANGUL HIEUH A;PARENTHESIZED HANGUL CIEUC U
PARENTHESIZED KOREAN CHARACTER OJEON;PARENTHESIZED KOREAN CHARACTER O HU"),
  (0x3220, "PARENTHESIZED IDEOGRAPH ONE;PARENTHESIZED IDEOGRAPH TWO;PARENTHESIZED IDEOGRAPH THREE
PARENTHESIZED IDEOGRAPH FOUR;PARENTHESIZED IDEOGRAPH FIVE;PARENTHESIZED IDEOGRAPH SIX
PARENTHESIZED IDEOGRAPH SEVEN;PARENTHESIZED IDEOGRAPH EIGHT;PARENTHESIZED IDEOGRAPH NINE
PARENTHESIZED IDEOGRAPH TEN;PARENTHESIZED IDEOGRAPH MOON;PARENTHESIZED IDEOGRAPH FIRE
PARENTHESIZED IDEOGRAPH WATER;PARENTHESIZED IDEOGRAPH WOOD;PARENTHESIZED IDEOGRAPH METAL
PARENTHESIZED IDEOGRAPH EARTH;PARENTHESIZED IDEOGRAPH SUN;PARENTHESIZED IDEOGRAPH STOCK
PARENTHESIZED IDEOGRAPH HAVE;PARENTHESIZED IDEOGRAPH SOCIETY;PARENTHESIZED IDEOGRAPH NAME
PARENTHESIZED IDEOGRAPH SPECIAL;PARENTHESIZED IDEOGRAPH FINANCIAL
PARENTHESIZED IDEOGRAPH CONGRATULATION;PARENTHESIZED IDEOGRAPH LABOR
PARENTHESIZED IDEOGRAPH REPRESENT;PARENTHESIZED IDEOGRAPH CALL;PARENTHESIZED IDEOGRAPH STUDY
PARENTHESIZED IDEOGRAPH SUPERVISE;PARENTHESIZED IDEOGRAPH ENTERPRISE
PARENTHESIZED IDEOGRAPH RESOURCE;PARENTHESIZED IDEOGRAPH ALLIANCE
PARENTHESIZED IDEOGRAPH FESTIVAL;PARENTHESIZED IDEOGRAPH REST;PARENTHESIZED IDEOGRAPH SELF
PARENTHESIZED IDEOGRAPH REACH;CIRCLED IDEOGRAPH QUESTION;CIRCLED IDEOGRAPH KINDERGARTEN
CIRCLED IDEOGRAPH SCHOOL;CIRCLED IDEOGRAPH KOTO;CIRCLED NUMBER TEN ON BLACK SQUARE
CIRCLED NUMBER TWENTY ON BLACK SQUARE;CIRCLED NUMBER THIRTY ON BLACK SQUARE
CIRCLED NUMBER FORTY ON BLACK SQUARE;CIRCLED NUMBER FIFTY ON BLACK SQUARE
CIRCLED NUMBER SIXTY ON BLACK SQUARE;CIRCLED NUMBER SEVENTY ON BLACK SQUARE
CIRCLED NUMBER EIGHTY ON BLACK SQUARE;PARTNERSHIP SIGN;CIRCLED NUMBER TWENTY ONE
CIRCLED NUMBER TWENTY TWO;CIRCLED NUMBER TWENTY THREE;CIRCLED NUMBER TWENTY FOUR
CIRCLED NUMBER TWENTY FIVE;CIRCLED NUMBER TWENTY SIX;CIRCLED NUMBER TWENTY SEVEN
CIRCLED NUMBER TWENTY EIGHT;CIRCLED NUMBER TWENTY NINE;CIRCLED NUMBER THIRTY
CIRCLED NUMBER THIRTY ONE;CIRCLED NUMBER THIRTY TWO;CIRCLED NUMBER THIRTY THREE
CIRCLED NUMBER THIRTY FOUR;CIRCLED NUMBER THIRTY FIVE;CIRCLED HANGUL KIYEOK;CIRCLED HANGUL NIEUN
CIRCLED HANGUL TIKEUT;CIRCLED HANGUL RIEUL;CIRCLED HANGUL MIEUM;CIRCLED HANGUL PIEUP
CIRCLED HANGUL SIOS;CIRCLED HANGUL IEUNG;CIRCLED HANGUL CIEUC;CIRCLED HANGUL CHIEUCH
CIRCLED HANGUL KHIEUKH;CIRCLED HANGUL THIEUTH;CIRCLED HANGUL PHIEUPH;CIRCLED HANGUL HIEUH
CIRCLED HANGUL KIYEOK A;CIRCLED HANGUL NIEUN A;CIRCLED HANGUL TIKEUT A;CIRCLED HANGUL RIEUL A
CIRCLED HANGUL MIEUM A;CIRCLED HANGUL PIEUP A;CIRCLED HANGUL SIOS A;CIRCLED HANGUL IEUNG A
CIRCLED HANGUL CIEUC A;CIRCLED HANGUL CHIEUCH A;CIRCLED HANGUL KHIEUKH A;CIRCLED HANGUL THIEUTH A
CIRCLED HANGUL PHIEUPH A;CIRCLED HANGUL HIEUH A;CIRCLED KOREAN CHARACTER CHAMKO
CIRCLED KOREAN CHARACTER JUEUI;CIRCLED HANGUL IEUNG U;KOREAN STANDARD SYMBOL
CIRCLED IDEOGRAPH ONE;CIRCLED IDEOGRAPH TWO;CIRCLED IDEOGRAPH THREE;CIRCLED IDEOGRAPH FOUR
CIRCLED IDEOGRAPH FIVE;CIRCLED IDEOGRAPH SIX;CIRCLED IDEOGRAPH SEVEN;CIRCLED IDEOGRAPH EIGHT
CIRCLED IDEOGRAPH NINE;CIRCLED IDEOGRAPH TEN;CIRCLED IDEOGRAPH MOON;CIRCLED IDEOGRAPH FIRE
CIRCLED IDEOGRAPH WATER;CIRCLED IDEOGRAPH WOOD;CIRCLED IDEOGRAPH METAL;CIRCLED IDEOGRAPH EARTH
CIRCLED IDEOGRAPH SUN;CIRCLED IDEOGRAPH STOCK;CIRCLED IDEOGRAPH HAVE;CIRCLED IDEOGRAPH SOCIETY
CIRCLED IDEOGRAPH NAME;CIRCLED IDEOGRAPH SPECIAL;CIRCLED IDEOGRAPH FINANCIAL
CIRCLED IDEOGRAPH CONGRATULATION;CIRCLED IDEOGRAPH LABOR;CIRCLED IDEOGRAPH SECRET
CIRCLED IDEOGRAPH MALE;CIRCLED IDEOGRAPH FEMALE;CIRCLED IDEOGRAPH SUITABLE
CIRCLED IDEOGRAPH EXCELLENT;CIRCLED IDEOGRAPH PRINT;CIRCLED IDEOGRAPH ATTENTION
CIRCLED IDEOGRAPH ITEM;CIRCLED IDEOGRAPH REST;CIRCLED IDEOGRAPH COPY;CIRCLED IDEOGRAPH CORRECT
CIRCLED IDEOGRAPH HIGH;CIRCLED IDEOGRAPH CENTRE;CIRCLED IDEOGRAPH LOW;CIRCLED IDEOGRAPH LEFT
CIRCLED IDEOGRAPH RIGHT;CIRCLED IDEOGRAPH MEDICINE;CIRCLED IDEOGRAPH RELIGION
CIRCLED IDEOGRAPH STUDY;CIRCLED IDEOGRAPH SUPERVISE;CIRCLED IDEOGRAPH ENTERPRISE
CIRCLED IDEOGRAPH RESOURCE;CIRCLED IDEOGRAPH ALLIANCE;CIRCLED IDEOGRAPH NIGHT
CIRCLED NUMBER THIRTY SIX;CIRCLED NUMBER THIRTY SEVEN;CIRCLED NUMBER THIRTY EIGHT
CIRCLED NUMBER THIRTY NINE;CIRCLED NUMBER FORTY;CIRCLED NUMBER FORTY ONE;CIRCLED NUMBER FORTY TWO
CIRCLED NUMBER FORTY THREE;CIRCLED NUMBER FORTY FOUR;CIRCLED NUMBER FORTY FIVE
CIRCLED NUMBER FORTY SIX;CIRCLED NUMBER FORTY SEVEN;CIRCLED NUMBER FORTY EIGHT
CIRCLED NUMBER FORTY NINE;CIRCLED NUMBER FIFTY;IDEOGRAPHIC TELEGRAPH SYMBOL FOR JANUARY
IDEOGRAPHIC TELEGRAPH SYMBOL FOR FEBRUARY;IDEOGRAPHIC TELEGRAPH SYMBOL FOR MARCH
IDEOGRAPHIC TELEGRAPH SYMBOL FOR APRIL;IDEOGRAPHIC TELEGRAPH SYMBOL FOR MAY
IDEOGRAPHIC TELEGRAPH SYMBOL FOR JUNE;IDEOGRAPHIC TELEGRAPH SYMBOL FOR JULY
IDEOGRAPHIC TELEGRAPH SYMBOL FOR AUGUST;IDEOGRAPHIC TELEGRAPH SYMBOL FOR SEPTEMBER
IDEOGRAPHIC TELEGRAPH SYMBOL FOR OCTOBER;IDEOGRAPHIC TELEGRAPH SYMBOL FOR NOVEMBER
IDEOGRAPHIC TELEGRAPH SYMBOL FOR DECEMBER;SQUARE HG;SQUARE ERG;SQUARE EV;LIMITED LIABILITY SIGN
CIRCLED KATAKANA A;CIRCLED KATAKANA I;CIRCLED KATAKANA U;CIRCLED KATAKANA E;CIRCLED KATAKANA O
CIRCLED KATAKANA KA;CIRCLED KATAKANA KI;CIRCLED KATAKANA KU;CIRCLED KATAKANA KE
CIRCLED KATAKANA KO;CIRCLED KATAKANA SA;CIRCLED KATAKANA SI;CIRCLED KATAKANA SU
CIRCLED KATAKANA SE;CIRCLED KATAKANA SO;CIRCLED KATAKANA TA;CIRCLED KATAKANA TI
CIRCLED KATAKANA TU;CIRCLED KATAKANA TE;CIRCLED KATAKANA TO;CIRCLED KATAKANA NA
CIRCLED KATAKANA NI;CIRCLED KATAKANA NU;CIRCLED KATAKANA NE;CIRCLED KATAKANA NO
CIRCLED KATAKANA HA;CIRCLED KATAKANA HI;CIRCLED KATAKANA HU;CIRCLED KATAKANA HE
CIRCLED KATAKANA HO;CIRCLED KATAKANA MA;CIRCLED KATAKANA MI;CIRCLED KATAKANA MU
CIRCLED KATAKANA ME;CIRCLED KATAKANA MO;CIRCLED KATAKANA YA;CIRCLED KATAKANA YU
CIRCLED KATAKANA YO;CIRCLED KATAKANA RA;CIRCLED KATAKANA RI;CIRCLED KATAKANA RU
CIRCLED KATAKANA RE;CIRCLED KATAKANA RO;CIRCLED KATAKANA WA;CIRCLED KATAKANA WI
CIRCLED KATAKANA WE;CIRCLED KATAKANA WO;SQUARE ERA NAME REIWA;SQUARE APAATO;SQUARE ARUHUA
SQUARE ANPEA;SQUARE AARU;SQUARE ININGU;SQUARE INTI;SQUARE UON;SQUARE ESUKUUDO;SQUARE EEKAA
SQUARE ONSU;SQUARE OOMU;SQUARE KAIRI;SQUARE KARATTO;SQUARE KARORII;SQUARE GARON;SQUARE GANMA
SQUARE GIGA;SQUARE GINII;SQUARE KYURII;SQUARE GIRUDAA;SQUARE KIRO;SQUARE KIROGURAMU
SQUARE KIROMEETORU;SQUARE KIROWATTO;SQUARE GURAMU;SQUARE GURAMUTON;SQUARE KURUZEIRO
SQUARE KUROONE;SQUARE KEESU;SQUARE KORUNA;SQUARE KOOPO;SQUARE SAIKURU;SQUARE SANTIIMU
SQUARE SIRINGU;SQUARE SENTI;SQUARE SENTO;SQUARE DAASU;SQUARE DESI;SQUARE DORU;SQUARE TON
SQUARE NANO;SQUARE NOTTO;SQUARE HAITU;SQUARE PAASENTO;SQUARE PAATU;SQUARE BAARERU
SQUARE PIASUTORU;SQUARE PIKURU;SQUARE PIKO;SQUARE BIRU;SQUARE HUARADDO;SQUARE HUIITO
SQUARE BUSSYERU;SQUARE HURAN;SQUARE HEKUTAARU;SQUARE PESO;SQUARE PENIHI;SQUARE HERUTU
SQUARE PENSU;SQUARE PEEZI;SQUARE BEETA;SQUARE POINTO;SQUARE BORUTO;SQUARE HON;SQUARE PONDO
SQUARE HOORU;SQUARE HOON;SQUARE MAIKURO;SQUARE MAIRU;SQUARE MAHHA;SQUARE MARUKU;SQUARE MANSYON
SQUARE MIKURON;SQUARE MIRI;SQUARE MIRIBAARU;SQUARE MEGA;SQUARE MEGATON;SQUARE MEETORU
SQUARE YAADO;SQUARE YAARU;SQUARE YUAN;SQUARE RITTORU;SQUARE RIRA;SQUARE RUPII;SQUARE RUUBURU
SQUARE REMU;SQUARE RENTOGEN;SQUARE WATTO;IDEOGRAPHIC TELEGRAPH SYMBOL FOR HOUR ZERO
IDEOGRAPHIC TELEGRAPH SYMBOL FOR HOUR ONE;IDEOGRAPHIC TELEGRAPH SYMBOL FOR HOUR TWO
IDEOGRAPHIC TELEGRAPH SYMBOL FOR HOUR THREE;IDEOGRAPHIC TELEGRAPH SYMBOL FOR HOUR FOUR
IDEOGRAPHIC TELEGRAPH SYMBOL FOR HOUR FIVE;IDEOGRAPHIC TELEGRAPH SYMBOL FOR HOUR SIX
IDEOGRAPHIC TELEGRAPH SYMBOL FOR HOUR SEVEN;IDEOGRAPHIC TELEGRAPH SYMBOL FOR HOUR EIGHT
IDEOGRAPHIC TELEGRAPH SYMBOL FOR HOUR NINE;IDEOGRAPHIC TELEGRAPH SYMBOL FOR HOUR TEN
IDEOGRAPHIC TELEGRAPH SYMBOL FOR HOUR ELEVEN;IDEOGRAPHIC TELEGRAPH SYMBOL FOR HOUR TWELVE
IDEOGRAPHIC TELEGRAPH SYMBOL FOR HOUR THIRTEEN;IDEOGRAPHIC TELEGRAPH SYMBOL FOR HOUR FOURTEEN
IDEOGRAPHIC TELEGRAPH SYMBOL FOR HOUR FIFTEEN;IDEOGRAPHIC TELEGRAPH SYMBOL FOR HOUR SIXTEEN
IDEOGRAPHIC TELEGRAPH SYMBOL FOR HOUR SEVENTEEN;IDEOGRAPHIC TELEGRAPH SYMBOL FOR HOUR EIGHTEEN
IDEOGRAPHIC TELEGRAPH SYMBOL FOR HOUR NINETEEN;IDEOGRAPHIC TELEGRAPH SYMBOL FOR HOUR TWENTY
IDEOGRAPHIC TELEGRAPH SYMBOL FOR HOUR TWENTY-ONE;IDEOGRAPHIC TELEGRAPH SYMBOL FOR HOUR TWENTY-TWO
IDEOGRAPHIC TELEGRAPH SYMBOL FOR HOUR TWENTY-THREE
IDEOGRAPHIC TELEGRAPH SYMBOL FOR HOUR TWENTY-FOUR;SQUARE HPA;SQUARE DA;SQUARE AU;SQUARE BAR
SQUARE OV;SQUARE PC;SQUARE DM;SQUARE DM SQUARED;SQUARE DM CUBED;SQUARE IU;SQUARE ERA NAME HEISEI
SQUARE ERA NAME SYOUWA;SQUARE ERA NAME TAISYOU;SQUARE ERA NAME MEIZI;SQUARE CORPORATION
SQUARE PA AMPS;SQUARE NA;SQUARE MU A;SQUARE MA;SQUARE KA;SQUARE KB;SQUARE MB;SQUARE GB;SQUARE CAL
SQUARE KCAL;SQUARE PF;SQUARE NF;SQUARE MU F;SQUARE MU G;SQUARE MG;SQUARE KG;SQUARE HZ;SQUARE KHZ
SQUARE MHZ;SQUARE GHZ;SQUARE THZ;SQUARE MU L;SQUARE ML;SQUARE DL;SQUARE KL;SQUARE FM;SQUARE NM
SQUARE MU M;SQUARE MM;SQUARE CM;SQUARE KM;SQUARE MM SQUARED;SQUARE CM SQUARED;SQUARE M SQUARED
SQUARE KM SQUARED;SQUARE MM CUBED;SQUARE CM CUBED;SQUARE M CUBED;SQUARE KM CUBED;SQUARE M OVER S
SQUARE M OVER S SQUARED;SQUARE PA;SQUARE KPA;SQUARE MPA;SQUARE GPA;SQUARE RAD;SQUARE RAD OVER S
SQUARE RAD OVER S SQUARED;SQUARE PS;SQUARE NS;SQUARE MU S;SQUARE MS;SQUARE PV;SQUARE NV
SQUARE MU V;SQUARE MV;SQUARE KV;SQUARE MV MEGA;SQUARE PW;SQUARE NW;SQUARE MU W;SQUARE MW
SQUARE KW;SQUARE MW MEGA;SQUARE K OHM;SQUARE M OHM;SQUARE AM;SQUARE BQ;SQUARE CC;SQUARE CD
SQUARE C OVER KG;SQUARE CO;SQUARE DB;SQUARE GY;SQUARE HA;SQUARE HP;SQUARE IN;SQUARE KK
SQUARE KM CAPITAL;SQUARE KT;SQUARE LM;SQUARE LN;SQUARE LOG;SQUARE LX;SQUARE MB SMALL;SQUARE MIL
SQUARE MOL;SQUARE PH;SQUARE PM;SQUARE PPM;SQUARE PR;SQUARE SR;SQUARE SV;SQUARE WB;SQUARE V OVER M
SQUARE A OVER M;IDEOGRAPHIC TELEGRAPH SYMBOL FOR DAY ONE;IDEOGRAPHIC TELEGRAPH SYMBOL FOR DAY TWO
IDEOGRAPHIC TELEGRAPH SYMBOL FOR DAY THREE;IDEOGRAPHIC TELEGRAPH SYMBOL FOR DAY FOUR
IDEOGRAPHIC TELEGRAPH SYMBOL FOR DAY FIVE;IDEOGRAPHIC TELEGRAPH SYMBOL FOR DAY SIX
IDEOGRAPHIC TELEGRAPH SYMBOL FOR DAY SEVEN;IDEOGRAPHIC TELEGRAPH SYMBOL FOR DAY EIGHT
IDEOGRAPHIC TELEGRAPH SYMBOL FOR DAY NINE;IDEOGRAPHIC TELEGRAPH SYMBOL FOR DAY TEN
IDEOGRAPHIC TELEGRAPH SYMBOL FOR DAY ELEVEN;IDEOGRAPHIC TELEGRAPH SYMBOL FOR DAY TWELVE
IDEOGRAPHIC TELEGRAPH SYMBOL FOR DAY THIRTEEN;IDEOGRAPHIC TELEGRAPH SYMBOL FOR DAY FOURTEEN
IDEOGRAPHIC TELEGRAPH SYMBOL FOR DAY FIFTEEN;IDEOGRAPHIC TELEGRAPH SYMBOL FOR DAY SIXTEEN
IDEOGRAPHIC TELEGRAPH SYMBOL FOR DAY SEVENTEEN;IDEOGRAPHIC TELEGRAPH SYMBOL FOR DAY EIGHTEEN
IDEOGRAPHIC TELEGRAPH SYMBOL FOR DAY NINETEEN;IDEOGRAPHIC TELEGRAPH SYMBOL FOR DAY TWENTY
IDEOGRAPHIC TELEGRAPH SYMBOL FOR DAY TWENTY-ONE;IDEOGRAPHIC TELEGRAPH SYMBOL FOR DAY TWENTY-TWO
IDEOGRAPHIC TELEGRAPH SYMBOL FOR DAY TWENTY-THREE
IDEOGRAPHIC TELEGRAPH SYMBOL FOR DAY TWENTY-FOUR;IDEOGRAPHIC TELEGRAPH SYMBOL FOR DAY TWENTY-FIVE
IDEOGRAPHIC TELEGRAPH SYMBOL FOR DAY TWENTY-SIX;IDEOGRAPHIC TELEGRAPH SYMBOL FOR DAY TWENTY-SEVEN
IDEOGRAPHIC TELEGRAPH SYMBOL FOR DAY TWENTY-EIGHT
IDEOGRAPHIC TELEGRAPH SYMBOL FOR DAY TWENTY-NINE;IDEOGRAPHIC TELEGRAPH SYMBOL FOR DAY THIRTY
IDEOGRAPHIC TELEGRAPH SYMBOL FOR DAY THIRTY-ONE;SQUARE GAL"),
  (0x4dc0, "HEXAGRAM FOR THE CREATIVE HEAVEN;HEXAGRAM FOR THE RECEPTIVE EARTH
HEXAGRAM FOR DIFFICULTY AT THE BEGINNING;HEXAGRAM FOR YOUTHFUL FOLLY;HEXAGRAM FOR WAITING
HEXAGRAM FOR CONFLICT;HEXAGRAM FOR THE ARMY;HEXAGRAM FOR HOLDING TOGETHER
HEXAGRAM FOR SMALL TAMING;HEXAGRAM FOR TREADING;HEXAGRAM FOR PEACE;HEXAGRAM FOR STANDSTILL
HEXAGRAM FOR FELLOWSHIP;HEXAGRAM FOR GREAT POSSESSION;HEXAGRAM FOR MODESTY
HEXAGRAM FOR ENTHUSIASM;HEXAGRAM FOR FOLLOWING;HEXAGRAM FOR WORK ON THE DECAYED
HEXAGRAM FOR APPROACH;HEXAGRAM FOR CONTEMPLATION;HEXAGRAM FOR BITING THROUGH;HEXAGRAM FOR GRACE
HEXAGRAM FOR SPLITTING APART;HEXAGRAM FOR RETURN;HEXAGRAM FOR INNOCENCE;HEXAGRAM FOR GREAT TAMING
HEXAGRAM FOR MOUTH CORNERS;HEXAGRAM FOR GREAT PREPONDERANCE;HEXAGRAM FOR THE ABYSMAL WATER
HEXAGRAM FOR THE CLINGING FIRE;HEXAGRAM FOR INFLUENCE;HEXAGRAM FOR DURATION;HEXAGRAM FOR RETREAT
HEXAGRAM FOR GREAT POWER;HEXAGRAM FOR PROGRESS;HEXAGRAM FOR DARKENING OF THE LIGHT
HEXAGRAM FOR THE FAMILY;HEXAGRAM FOR OPPOSITION;HEXAGRAM FOR OBSTRUCTION;HEXAGRAM FOR DELIVERANCE
HEXAGRAM FOR DECREASE;HEXAGRAM FOR INCREASE;HEXAGRAM FOR BREAKTHROUGH;HEXAGRAM FOR COMING TO MEET
HEXAGRAM FOR GATHERING TOGETHER;HEXAGRAM FOR PUSHING UPWARD;HEXAGRAM FOR OPPRESSION
HEXAGRAM FOR THE WELL;HEXAGRAM FOR REVOLUTION;HEXAGRAM FOR THE CAULDRON
HEXAGRAM FOR THE AROUSING THUNDER;HEXAGRAM FOR THE KEEPING STILL MOUNTAIN
HEXAGRAM FOR DEVELOPMENT;HEXAGRAM FOR THE MARRYING MAIDEN;HEXAGRAM FOR ABUNDANCE
HEXAGRAM FOR THE WANDERER;HEXAGRAM FOR THE GENTLE WIND;HEXAGRAM FOR THE JOYOUS LAKE
HEXAGRAM FOR DISPERSION;HEXAGRAM FOR LIMITATION;HEXAGRAM FOR INNER TRUTH
HEXAGRAM FOR SMALL PREPONDERANCE;HEXAGRAM FOR AFTER COMPLETION;HEXAGRAM FOR BEFORE COMPLETION")]

end UrlRouting.Text
