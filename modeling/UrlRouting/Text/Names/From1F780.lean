/-!
# Names of characters from U+1F780 to U+E01EF

The names of Unicode 14.  Each entry gives the first of some characters in a row and their
names, one after the other, between semicolons and line ends.
-/

namespace UrlRouting.Text

/-- The names of the characters from U+1F780 to U+E01EF. -/
def namesFrom1F780 : List (Nat × String) := [
  (0x1f780, "BLACK LEFT-POINTING ISOSCELES RIGHT TRIANGLE
BLACK UP-POINTING ISOSCELES RIGHT TRIANGLE;BLACK RIGHT-POINTING ISOSCELES RIGHT TRIANGLE
BLACK DOWN-POINTING ISOSCELES RIGHT TRIANGLE;BLACK SLIGHTLY SMALL CIRCLE;MEDIUM BOLD WHITE CIRCLE
BOLD WHITE CIRCLE;HEAVY WHITE CIRCLE;VERY HEAVY WHITE CIRCLE;EXTREMELY HEAVY WHITE CIRCLE
WHITE CIRCLE CONTAINING BLACK SMALL CIRCLE;ROUND TARGET;BLACK TINY SQUARE
BLACK SLIGHTLY SMALL SQUARE;LIGHT WHITE SQUARE;MEDIUM WHITE SQUARE;BOLD WHITE SQUARE
HEAVY WHITE SQUARE;VERY HEAVY WHITE SQUARE;EXTREMELY HEAVY WHITE SQUARE
WHITE SQUARE CONTAINING BLACK VERY SMALL SQUARE;WHITE SQUARE CONTAINING BLACK MEDIUM SQUARE
SQUARE TARGET;BLACK TINY DIAMOND;BLACK VERY SMALL DIAMOND;BLACK MEDIUM SMALL DIAMOND
WHITE DIAMOND CONTAINING BLACK VERY SMALL DIAMOND;WHITE DIAMOND CONTAINING BLACK MEDIUM DIAMOND
DIAMOND TARGET;BLACK TINY LOZENGE;BLACK VERY SMALL LOZENGE;BLACK MEDIUM SMALL LOZENGE
WHITE LOZENGE CONTAINING BLACK SMALL LOZENGE;THIN GREEK CROSS;LIGHT GREEK CROSS
MEDIUM GREEK CROSS;BOLD GREEK CROSS;VERY BOLD GREEK CROSS;VERY HEAVY GREEK CROSS
EXTREMELY HEAVY GREEK CROSS;THIN SALTIRE;LIGHT SALTIRE;MEDIUM SALTIRE;BOLD SALTIRE;HEAVY SALTIRE
VERY HEAVY SALTIRE;EXTREMELY HEAVY SALTIRE;LIGHT FIVE SPOKED ASTERISK;MEDIUM FIVE SPOKED ASTERISK
BOLD FIVE SPOKED ASTERISK;HEAVY FIVE SPOKED ASTERISK;VERY HEAVY FIVE SPOKED ASTERISK
EXTREMELY HEAVY FIVE SPOKED ASTERISK;LIGHT SIX SPOKED ASTERISK;MEDIUM SIX SPOKED ASTERISK
BOLD SIX SPOKED ASTERISK;HEAVY SIX SPOKED ASTERISK;VERY HEAVY SIX SPOKED ASTERISK
EXTREMELY HEAVY SIX SPOKED ASTERISK;LIGHT EIGHT SPOKED ASTERISK;MEDIUM EIGHT SPOKED ASTERISK
BOLD EIGHT SPOKED ASTERISK;HEAVY EIGHT SPOKED ASTERISK;VERY HEAVY EIGHT SPOKED ASTERISK
LIGHT THREE POINTED BLACK STAR;MEDIUM THREE POINTED BLACK STAR;THREE POINTED BLACK STAR
MEDIUM THREE POINTED PINWHEEL STAR;LIGHT FOUR POINTED BLACK STAR;MEDIUM FOUR POINTED BLACK STAR
FOUR POINTED BLACK STAR;MEDIUM FOUR POINTED PINWHEEL STAR
REVERSE LIGHT FOUR POINTED PINWHEEL STAR;LIGHT FIVE POINTED BLACK STAR
HEAVY FIVE POINTED BLACK STAR;MEDIUM SIX POINTED BLACK STAR;HEAVY SIX POINTED BLACK STAR
SIX POINTED PINWHEEL STAR;MEDIUM EIGHT POINTED BLACK STAR;HEAVY EIGHT POINTED BLACK STAR
VERY HEAVY EIGHT POINTED BLACK STAR;HEAVY EIGHT POINTED PINWHEEL STAR
LIGHT TWELVE POINTED BLACK STAR;HEAVY TWELVE POINTED BLACK STAR
HEAVY TWELVE POINTED PINWHEEL STAR;CIRCLED TRIANGLE;NEGATIVE CIRCLED TRIANGLE;CIRCLED SQUARE
NEGATIVE CIRCLED SQUARE"),
  (0x1f7e0, "LARGE ORANGE CIRCLE;LARGE YELLOW CIRCLE;LARGE GREEN CIRCLE;LARGE PURPLE CIRCLE
LARGE BROWN CIRCLE;LARGE RED SQUARE;LARGE BLUE SQUARE;LARGE ORANGE SQUARE;LARGE YELLOW SQUARE
LARGE GREEN SQUARE;LARGE PURPLE SQUARE;LARGE BROWN SQUARE"),
  (0x1f7f0, "HEAVY EQUALS SIGN"),
  (0x1f800, "LEFTWARDS ARROW WITH SMALL TRIANGLE ARROWHEAD
UPWARDS ARROW WITH SMALL TRIANGLE ARROWHEAD;RIGHTWARDS ARROW WITH SMALL TRIANGLE ARROWHEAD
DOWNWARDS ARROW WITH SMALL TRIANGLE ARROWHEAD;LEFTWARDS ARROW WITH MEDIUM TRIANGLE ARROWHEAD
UPWARDS ARROW WITH MEDIUM TRIANGLE ARROWHEAD;RIGHTWARDS ARROW WITH MEDIUM TRIANGLE ARROWHEAD
DOWNWARDS ARROW WITH MEDIUM TRIANGLE ARROWHEAD;LEFTWARDS ARROW WITH LARGE TRIANGLE ARROWHEAD
UPWARDS ARROW WITH LARGE TRIANGLE ARROWHEAD;RIGHTWARDS ARROW WITH LARGE TRIANGLE ARROWHEAD
DOWNWARDS ARROW WITH LARGE TRIANGLE ARROWHEAD"),
  (0x1f810, "LEFTWARDS ARROW WITH SMALL EQUILATERAL ARROWHEAD
UPWARDS ARROW WITH SMALL EQUILATERAL ARROWHEAD;RIGHTWARDS ARROW WITH SMALL EQUILATERAL ARROWHEAD
DOWNWARDS ARROW WITH SMALL EQUILATERAL ARROWHEAD;LEFTWARDS ARROW WITH EQUILATERAL ARROWHEAD
UPWARDS ARROW WITH EQUILATERAL ARROWHEAD;RIGHTWARDS ARROW WITH EQUILATERAL ARROWHEAD
DOWNWARDS ARROW WITH EQUILATERAL ARROWHEAD;HEAVY LEFTWARDS ARROW WITH EQUILATERAL ARROWHEAD
HEAVY UPWARDS ARROW WITH EQUILATERAL ARROWHEAD;HEAVY RIGHTWARDS ARROW WITH EQUILATERAL ARROWHEAD
HEAVY DOWNWARDS ARROW WITH EQUILATERAL ARROWHEAD
HEAVY LEFTWARDS ARROW WITH LARGE EQUILATERAL ARROWHEAD
HEAVY UPWARDS ARROW WITH LARGE EQUILATERAL ARROWHEAD
HEAVY RIGHTWARDS ARROW WITH LARGE EQUILATERAL ARROWHEAD
HEAVY DOWNWARDS ARROW WITH LARGE EQUILATERAL ARROWHEAD
LEFTWARDS TRIANGLE-HEADED ARROW WITH NARROW SHAFT;UPWARDS TRIANGLE-HEADED ARROW WITH NARROW SHAFT
RIGHTWARDS TRIANGLE-HEADED ARROW WITH NARROW SHAFT
DOWNWARDS TRIANGLE-HEADED ARROW WITH NARROW SHAFT
LEFTWARDS TRIANGLE-HEADED ARROW WITH MEDIUM SHAFT;UPWARDS TRIANGLE-HEADED ARROW WITH MEDIUM SHAFT
RIGHTWARDS TRIANGLE-HEADED ARROW WITH MEDIUM SHAFT
DOWNWARDS TRIANGLE-HEADED ARROW WITH MEDIUM SHAFT;LEFTWARDS TRIANGLE-HEADED ARROW WITH BOLD SHAFT
UPWARDS TRIANGLE-HEADED ARROW WITH BOLD SHAFT;RIGHTWARDS TRIANGLE-HEADED ARROW WITH BOLD SHAFT
DOWNWARDS TRIANGLE-HEADED ARROW WITH BOLD SHAFT;LEFTWARDS TRIANGLE-HEADED ARROW WITH HEAVY SHAFT
UPWARDS TRIANGLE-HEADED ARROW WITH HEAVY SHAFT;RIGHTWARDS TRIANGLE-HEADED ARROW WITH HEAVY SHAFT
DOWNWARDS TRIANGLE-HEADED ARROW WITH HEAVY SHAFT
LEFTWARDS TRIANGLE-HEADED ARROW WITH VERY HEAVY SHAFT
UPWARDS TRIANGLE-HEADED ARROW WITH VERY HEAVY SHAFT
RIGHTWARDS TRIANGLE-HEADED ARROW WITH VERY HEAVY SHAFT
DOWNWARDS TRIANGLE-HEADED ARROW WITH VERY HEAVY SHAFT;LEFTWARDS FINGER-POST ARROW
UPWARDS FINGER-POST ARROW;RIGHTWARDS FINGER-POST ARROW;DOWNWARDS FINGER-POST ARROW
LEFTWARDS SQUARED ARROW;UPWARDS SQUARED ARROW;RIGHTWARDS SQUARED ARROW;DOWNWARDS SQUARED ARROW
LEFTWARDS COMPRESSED ARROW;UPWARDS COMPRESSED ARROW;RIGHTWARDS COMPRESSED ARROW
DOWNWARDS COMPRESSED ARROW;LEFTWARDS HEAVY COMPRESSED ARROW;UPWARDS HEAVY COMPRESSED ARROW
RIGHTWARDS HEAVY COMPRESSED ARROW;DOWNWARDS HEAVY COMPRESSED ARROW;LEFTWARDS HEAVY ARROW
UPWARDS HEAVY ARROW;RIGHTWARDS HEAVY ARROW;DOWNWARDS HEAVY ARROW"),
  (0x1f850, "LEFTWARDS SANS-SERIF ARROW;UPWARDS SANS-SERIF ARROW;RIGHTWARDS SANS-SERIF ARROW
DOWNWARDS SANS-SERIF ARROW;NORTH WEST SANS-SERIF ARROW;NORTH EAST SANS-SERIF ARROW
SOUTH EAST SANS-SERIF ARROW;SOUTH WEST SANS-SERIF ARROW;LEFT RIGHT SANS-SERIF ARROW
UP DOWN SANS-SERIF ARROW"),
  (0x1f860, "WIDE-HEADED LEFTWARDS LIGHT BARB ARROW;WIDE-HEADED UPWARDS LIGHT BARB ARROW
WIDE-HEADED RIGHTWARDS LIGHT BARB ARROW;WIDE-HEADED DOWNWARDS LIGHT BARB ARROW
WIDE-HEADED NORTH WEST LIGHT BARB ARROW;WIDE-HEADED NORTH EAST LIGHT BARB ARROW
WIDE-HEADED SOUTH EAST LIGHT BARB ARROW;WIDE-HEADED SOUTH WEST LIGHT BARB ARROW
WIDE-HEADED LEFTWARDS BARB ARROW;WIDE-HEADED UPWARDS BARB ARROW;WIDE-HEADED RIGHTWARDS BARB ARROW
WIDE-HEADED DOWNWARDS BARB ARROW;WIDE-HEADED NORTH WEST BARB ARROW
WIDE-HEADED NORTH EAST BARB ARROW;WIDE-HEADED SOUTH EAST BARB ARROW
WIDE-HEADED SOUTH WEST BARB ARROW;WIDE-HEADED LEFTWARDS MEDIUM BARB ARROW
WIDE-HEADED UPWARDS MEDIUM BARB ARROW;WIDE-HEADED RIGHTWARDS MEDIUM BARB ARROW
WIDE-HEADED DOWNWARDS MEDIUM BARB ARROW;WIDE-HEADED NORTH WEST MEDIUM BARB ARROW
WIDE-HEADED NORTH EAST MEDIUM BARB ARROW;WIDE-HEADED SOUTH EAST MEDIUM BARB ARROW
WIDE-HEADED SOUTH WEST MEDIUM BARB ARROW;WIDE-HEADED LEFTWARDS HEAVY BARB ARROW
WIDE-HEADED UPWARDS HEAVY BARB ARROW;WIDE-HEADED RIGHTWARDS HEAVY BARB ARROW
WIDE-HEADED DOWNWARDS HEAVY BARB ARROW;WIDE-HEADED NORTH WEST HEAVY BARB ARROW
WIDE-HEADED NORTH EAST HEAVY BARB ARROW;WIDE-HEADED SOUTH EAST HEAVY BARB ARROW
WIDE-HEADED SOUTH WEST HEAVY BARB ARROW;WIDE-HEADED LEFTWARDS VERY HEAVY BARB ARROW
WIDE-HEADED UPWARDS VERY HEAVY BARB ARROW;WIDE-HEADED RIGHTWARDS VERY HEAVY BARB ARROW
WIDE-HEADED DOWNWARDS VERY HEAVY BARB ARROW;WIDE-HEADED NORTH WEST VERY HEAVY BARB ARROW
WIDE-HEADED NORTH EAST VERY HEAVY BARB ARROW;WIDE-HEADED SOUTH EAST VERY HEAVY BARB ARROW
WIDE-HEADED SOUTH WEST VERY HEAVY BARB ARROW"),
  (0x1f890, "LEFTWARDS TRIANGLE ARROWHEAD;UPWARDS TRIANGLE ARROWHEAD
RIGHTWARDS TRIANGLE ARROWHEAD;DOWNWARDS TRIANGLE ARROWHEAD
LEFTWARDS WHITE ARROW WITHIN TRIANGLE ARROWHEAD;UPWARDS WHITE ARROW WITHIN TRIANGLE ARROWHEAD
RIGHTWARDS WHITE ARROW WITHIN TRIANGLE ARROWHEAD;DOWNWARDS WHITE ARROW WITHIN TRIANGLE ARROWHEAD
LEFTWARDS ARROW WITH NOTCHED TAIL;UPWARDS ARROW WITH NOTCHED TAIL
RIGHTWARDS ARROW WITH NOTCHED TAIL;DOWNWARDS ARROW WITH NOTCHED TAIL;HEAVY ARROW SHAFT WIDTH ONE
HEAVY ARROW SHAFT WIDTH TWO THIRDS;HEAVY ARROW SHAFT WIDTH ONE HALF
HEAVY ARROW SHAFT WIDTH ONE THIRD;LEFTWARDS BOTTOM-SHADED WHITE ARROW
RIGHTWARDS BOTTOM SHADED WHITE ARROW;LEFTWARDS TOP SHADED WHITE ARROW
RIGHTWARDS TOP SHADED WHITE ARROW;LEFTWARDS LEFT-SHADED WHITE ARROW
RIGHTWARDS RIGHT-SHADED WHITE ARROW;LEFTWARDS RIGHT-SHADED WHITE ARROW
RIGHTWARDS LEFT-SHADED WHITE ARROW;LEFTWARDS BACK-TILTED SHADOWED WHITE ARROW
RIGHTWARDS BACK-TILTED SHADOWED WHITE ARROW;LEFTWARDS FRONT-TILTED SHADOWED WHITE ARROW
RIGHTWARDS FRONT-TILTED SHADOWED WHITE ARROW;WHITE ARROW SHAFT WIDTH ONE
WHITE ARROW SHAFT WIDTH TWO THIRDS"),
  (0x1f8b0, "ARROW POINTING UPWARDS THEN NORTH WEST
ARROW POINTING RIGHTWARDS THEN CURVING SOUTH WEST"),
  (0x1f900, "CIRCLED CROSS FORMEE WITH FOUR DOTS;CIRCLED CROSS FORMEE WITH TWO DOTS
CIRCLED CROSS FORMEE;LEFT HALF CIRCLE WITH FOUR DOTS;LEFT HALF CIRCLE WITH THREE DOTS
LEFT HALF CIRCLE WITH TWO DOTS;LEFT HALF CIRCLE WITH DOT;LEFT HALF CIRCLE;DOWNWARD FACING HOOK
DOWNWARD FACING NOTCHED HOOK;DOWNWARD FACING HOOK WITH DOT;DOWNWARD FACING NOTCHED HOOK WITH DOT
PINCHED FINGERS;WHITE HEART;BROWN HEART;PINCHING HAND;ZIPPER-MOUTH FACE;MONEY-MOUTH FACE
FACE WITH THERMOMETER;NERD FACE;THINKING FACE;FACE WITH HEAD-BANDAGE;ROBOT FACE;HUGGING FACE
SIGN OF THE HORNS;CALL ME HAND;RAISED BACK OF HAND;LEFT-FACING FIST;RIGHT-FACING FIST;HANDSHAKE
HAND WITH INDEX AND MIDDLE FINGERS CROSSED;I LOVE YOU HAND SIGN;FACE WITH COWBOY HAT;CLOWN FACE
NAUSEATED FACE;ROLLING ON THE FLOOR LAUGHING;DROOLING FACE;LYING FACE;FACE PALM;SNEEZING FACE
FACE WITH ONE EYEBROW RAISED;GRINNING FACE WITH STAR EYES
GRINNING FACE WITH ONE LARGE AND ONE SMALL EYE;FACE WITH FINGER COVERING CLOSED LIPS
SERIOUS FACE WITH SYMBOLS COVERING MOUTH;SMILING FACE WITH SMILING EYES AND HAND COVERING MOUTH
FACE WITH OPEN MOUTH VOMITING;SHOCKED FACE WITH EXPLODING HEAD;PREGNANT WOMAN;BREAST-FEEDING
PALMS UP TOGETHER;SELFIE;PRINCE;MAN IN TUXEDO;MOTHER CHRISTMAS;SHRUG;PERSON DOING CARTWHEEL
JUGGLING;FENCER;MODERN PENTATHLON;WRESTLERS;WATER POLO;HANDBALL;DIVING MASK;WILTED FLOWER
DRUM WITH DRUMSTICKS;CLINKING GLASSES;TUMBLER GLASS;SPOON;GOAL NET;RIFLE;FIRST PLACE MEDAL
SECOND PLACE MEDAL;THIRD PLACE MEDAL;BOXING GLOVE;MARTIAL ARTS UNIFORM;CURLING STONE
LACROSSE STICK AND BALL;SOFTBALL;FLYING DISC;CROISSANT;AVOCADO;CUCUMBER;BACON;POTATO;CARROT
BAGUETTE BREAD;GREEN SALAD;SHALLOW PAN OF FOOD;STUFFED FLATBREAD;EGG;GLASS OF MILK;PEANUTS
KIWIFRUIT;PANCAKES;DUMPLING;FORTUNE COOKIE;TAKEOUT BOX;CHOPSTICKS;BOWL WITH SPOON;CUP WITH STRAW
COCONUT;BROCCOLI;PIE;PRETZEL;CUT OF MEAT;SANDWICH;CANNED FOOD;LEAFY GREEN;MANGO;MOON CAKE;BAGEL
SMILING FACE WITH SMILING EYES AND THREE HEARTS;YAWNING FACE;SMILING FACE WITH TEAR
FACE WITH PARTY HORN AND PARTY HAT;FACE WITH UNEVEN EYES AND WAVY MOUTH;OVERHEATED FACE
FREEZING FACE;NINJA;DISGUISED FACE;FACE HOLDING BACK TEARS;FACE WITH PLEADING EYES;SARI;LAB COAT
GOGGLES;HIKING BOOT;FLAT SHOE;CRAB;LION FACE;SCORPION;TURKEY;UNICORN FACE;EAGLE;DUCK;BAT;SHARK
OWL;FOX FACE;BUTTERFLY;DEER;GORILLA;LIZARD;RHINOCEROS;SHRIMP;SQUID;GIRAFFE FACE;ZEBRA FACE
HEDGEHOG;SAUROPOD;T-REX;CRICKET;KANGAROO;LLAMA;PEACOCK;HIPPOPOTAMUS;PARROT;RACCOON;LOBSTER
MOSQUITO;MICROBE;BADGER;SWAN;MAMMOTH;DODO;SLOTH;OTTER;ORANGUTAN;SKUNK;FLAMINGO;OYSTER;BEAVER
BISON;SEAL;GUIDE DOG;PROBING CANE;EMOJI COMPONENT RED HAIR;EMOJI COMPONENT CURLY HAIR
EMOJI COMPONENT BALD;EMOJI COMPONENT WHITE HAIR;BONE;LEG;FOOT;TOOTH;SUPERHERO;SUPERVILLAIN
SAFETY VEST;EAR WITH HEARING AID;MOTORIZED WHEELCHAIR;MANUAL WHEELCHAIR;MECHANICAL ARM
MECHANICAL LEG;CHEESE WEDGE;CUPCAKE;SALT SHAKER;BEVERAGE BOX;GARLIC;ONION;FALAFEL;WAFFLE;BUTTER
MATE DRINK;ICE CUBE;BUBBLE TEA;TROLL;STANDING PERSON;KNEELING PERSON;DEAF PERSON
FACE WITH MONOCLE;ADULT;CHILD;OLDER ADULT;BEARDED PERSON;PERSON WITH HEADSCARF
PERSON IN STEAMY ROOM;PERSON CLIMBING;PERSON IN LOTUS POSITION;MAGE;FAIRY;VAMPIRE;MERPERSON;ELF
GENIE;ZOMBIE;BRAIN;ORANGE HEART;BILLED CAP;SCARF;GLOVES;COAT;SOCKS;RED GIFT ENVELOPE;FIRECRACKER
JIGSAW PUZZLE PIECE;TEST TUBE;PETRI DISH;DNA DOUBLE HELIX;COMPASS;ABACUS;FIRE EXTINGUISHER
TOOLBOX;BRICK;MAGNET;LUGGAGE;LOTION BOTTLE;SPOOL OF THREAD;BALL OF YARN;SAFETY PIN;TEDDY BEAR
BROOM;BASKET;ROLL OF PAPER;BAR OF SOAP;SPONGE;RECEIPT;NAZAR AMULET;NEUTRAL CHESS KING
NEUTRAL CHESS QUEEN;NEUTRAL CHESS ROOK;NEUTRAL CHESS BISHOP;NEUTRAL CHESS KNIGHT
NEUTRAL CHESS PAWN;WHITE CHESS KNIGHT ROTATED FORTY-FIVE DEGREES
BLACK CHESS KNIGHT ROTATED FORTY-FIVE DEGREES;NEUTRAL CHESS KNIGHT ROTATED FORTY-FIVE DEGREES
WHITE CHESS KING ROTATED NINETY DEGREES;WHITE CHESS QUEEN ROTATED NINETY DEGREES
WHITE CHESS ROOK ROTATED NINETY DEGREES;WHITE CHESS BISHOP ROTATED NINETY DEGREES
WHITE CHESS KNIGHT ROTATED NINETY DEGREES;WHITE CHESS PAWN ROTATED NINETY DEGREES
BLACK CHESS KING ROTATED NINETY DEGREES;BLACK CHESS QUEEN ROTATED NINETY DEGREES
BLACK CHESS ROOK ROTATED NINETY DEGREES;BLACK CHESS BISHOP ROTATED NINETY DEGREES
BLACK CHESS KNIGHT ROTATED NINETY DEGREES;BLACK CHESS PAWN ROTATED NINETY DEGREES
NEUTRAL CHESS KING ROTATED NINETY DEGREES;NEUTRAL CHESS QUEEN ROTATED NINETY DEGREES
NEUTRAL CHESS ROOK ROTATED NINETY DEGREES;NEUTRAL CHESS BISHOP ROTATED NINETY DEGREES
NEUTRAL CHESS KNIGHT ROTATED NINETY DEGREES;NEUTRAL CHESS PAWN ROTATED NINETY DEGREES
WHITE CHESS KNIGHT ROTATED ONE HUNDRED THIRTY-FIVE DEGREES
BLACK CHESS KNIGHT ROTATED ONE HUNDRED THIRTY-FIVE DEGREES
NEUTRAL CHESS KNIGHT ROTATED ONE HUNDRED THIRTY-FIVE DEGREES;WHITE CHESS TURNED KING
WHITE CHESS TURNED QUEEN;WHITE CHESS TURNED ROOK;WHITE CHESS TURNED BISHOP
WHITE CHESS TURNED KNIGHT;WHITE CHESS TURNED PAWN;BLACK CHESS TURNED KING
BLACK CHESS TURNED QUEEN;BLACK CHESS TURNED ROOK;BLACK CHESS TURNED BISHOP
BLACK CHESS TURNED KNIGHT;BLACK CHESS TURNED PAWN;NEUTRAL CHESS TURNED KING
NEUTRAL CHESS TURNED QUEEN;NEUTRAL CHESS TURNED ROOK;NEUTRAL CHESS TURNED BISHOP
NEUTRAL CHESS TURNED KNIGHT;NEUTRAL CHESS TURNED PAWN
WHITE CHESS KNIGHT ROTATED TWO HUNDRED TWENTY-FIVE DEGREES
BLACK CHESS KNIGHT ROTATED TWO HUNDRED TWENTY-FIVE DEGREES
NEUTRAL CHESS KNIGHT ROTATED TWO HUNDRED TWENTY-FIVE DEGREES
WHITE CHESS KING ROTATED TWO HUNDRED SEVENTY DEGREES
WHITE CHESS QUEEN ROTATED TWO HUNDRED SEVENTY DEGREES
WHITE CHESS ROOK ROTATED TWO HUNDRED SEVENTY DEGREES
WHITE CHESS BISHOP ROTATED TWO HUNDRED SEVENTY DEGREES
WHITE CHESS KNIGHT ROTATED TWO HUNDRED SEVENTY DEGREES
WHITE CHESS PAWN ROTATED TWO HUNDRED SEVENTY DEGREES
BLACK CHESS KING ROTATED TWO HUNDRED SEVENTY DEGREES
BLACK CHESS QUEEN ROTATED TWO HUNDRED SEVENTY DEGREES
BLACK CHESS ROOK ROTATED TWO HUNDRED SEVENTY DEGREES
BLACK CHESS BISHOP ROTATED TWO HUNDRED SEVENTY DEGREES
BLACK CHESS KNIGHT ROTATED TWO HUNDRED SEVENTY DEGREES
BLACK CHESS PAWN ROTATED TWO HUNDRED SEVENTY DEGREES
NEUTRAL CHESS KING ROTATED TWO HUNDRED SEVENTY DEGREES
NEUTRAL CHESS QUEEN ROTATED TWO HUNDRED SEVENTY DEGREES
NEUTRAL CHESS ROOK ROTATED TWO HUNDRED SEVENTY DEGREES
NEUTRAL CHESS BISHOP ROTATED TWO HUNDRED SEVENTY DEGREES
NEUTRAL CHESS KNIGHT ROTATED TWO HUNDRED SEVENTY DEGREES
NEUTRAL CHESS PAWN ROTATED TWO HUNDRED SEVENTY DEGREES
WHITE CHESS KNIGHT ROTATED THREE HUNDRED FIFTEEN DEGREES
BLACK CHESS KNIGHT ROTATED THREE HUNDRED FIFTEEN DEGREES
NEUTRAL CHESS KNIGHT ROTATED THREE HUNDRED FIFTEEN DEGREES;WHITE CHESS EQUIHOPPER
BLACK CHESS EQUIHOPPER;NEUTRAL CHESS EQUIHOPPER;WHITE CHESS EQUIHOPPER ROTATED NINETY DEGREES
BLACK CHESS EQUIHOPPER ROTATED NINETY DEGREES;NEUTRAL CHESS EQUIHOPPER ROTATED NINETY DEGREES
WHITE CHESS KNIGHT-QUEEN;WHITE CHESS KNIGHT-ROOK;WHITE CHESS KNIGHT-BISHOP
BLACK CHESS KNIGHT-QUEEN;BLACK CHESS KNIGHT-ROOK;BLACK CHESS KNIGHT-BISHOP"),
  (0x1fa60, "XIANGQI RED GENERAL;XIANGQI RED MANDARIN;XIANGQI RED ELEPHANT;XIANGQI RED HORSE
XIANGQI RED CHARIOT;XIANGQI RED CANNON;XIANGQI RED SOLDIER;XIANGQI BLACK GENERAL
XIANGQI BLACK MANDARIN;XIANGQI BLACK ELEPHANT;XIANGQI BLACK HORSE;XIANGQI BLACK CHARIOT
XIANGQI BLACK CANNON;XIANGQI BLACK SOLDIER"),
  (0x1fa70, "BALLET SHOES;ONE-PIECE SWIMSUIT;BRIEFS;SHORTS;THONG SANDAL"),
  (0x1fa78, "DROP OF BLOOD;ADHESIVE BANDAGE;STETHOSCOPE;X-RAY;CRUTCH"),
  (0x1fa80, "YO-YO;KITE;PARACHUTE;BOOMERANG;MAGIC WAND;PINATA;NESTING DOLLS"),
  (0x1fa90, "RINGED PLANET;CHAIR;RAZOR;AXE;DIYA LAMP;BANJO;MILITARY HELMET;ACCORDION;LONG DRUM
COIN;CARPENTRY SAW;SCREWDRIVER;LADDER;HOOK;MIRROR;WINDOW;PLUNGER;SEWING NEEDLE;KNOT;BUCKET
MOUSE TRAP;TOOTHBRUSH;HEADSTONE;PLACARD;ROCK;MIRROR BALL;IDENTIFICATION CARD;LOW BATTERY;HAMSA"),
  (0x1fab0, "FLY;WORM;BEETLE;COCKROACH;POTTED PLANT;WOOD;FEATHER;LOTUS;CORAL;EMPTY NEST
NEST WITH EGGS"),
  (0x1fac0, "ANATOMICAL HEART;LUNGS;PEOPLE HUGGING;PREGNANT MAN;PREGNANT PERSON;PERSON WITH CROWN"),
  (0x1fad0, "BLUEBERRIES;BELL PEPPER;OLIVE;FLATBREAD;TAMALE;FONDUE;TEAPOT;POURING LIQUID;BEANS
JAR"),
  (0x1fae0, "MELTING FACE;SALUTING FACE;FACE WITH OPEN EYES AND HAND OVER MOUTH
FACE WITH PEEKING EYE;FACE WITH DIAGONAL MOUTH;DOTTED LINE FACE;BITING LIP;BUBBLES"),
  (0x1faf0, "HAND WITH INDEX FINGER AND THUMB CROSSED;RIGHTWARDS HAND;LEFTWARDS HAND
PALM DOWN HAND;PALM UP HAND;INDEX POINTING AT THE VIEWER;HEART HANDS"),
  (0x1fb00, "BLOCK SEXTANT-1;BLOCK SEXTANT-2;BLOCK SEXTANT-12;BLOCK SEXTANT-3;BLOCK SEXTANT-13
BLOCK SEXTANT-23;BLOCK SEXTANT-123;BLOCK SEXTANT-4;BLOCK SEXTANT-14;BLOCK SEXTANT-24
BLOCK SEXTANT-124;BLOCK SEXTANT-34;BLOCK SEXTANT-134;BLOCK SEXTANT-234;BLOCK SEXTANT-1234
BLOCK SEXTANT-5;BLOCK SEXTANT-15;BLOCK SEXTANT-25;BLOCK SEXTANT-125;BLOCK SEXTANT-35
BLOCK SEXTANT-235;BLOCK SEXTANT-1235;BLOCK SEXTANT-45;BLOCK SEXTANT-145;BLOCK SEXTANT-245
BLOCK SEXTANT-1245;BLOCK SEXTANT-345;BLOCK SEXTANT-1345;BLOCK SEXTANT-2345;BLOCK SEXTANT-12345
BLOCK SEXTANT-6;BLOCK SEXTANT-16;BLOCK SEXTANT-26;BLOCK SEXTANT-126;BLOCK SEXTANT-36
BLOCK SEXTANT-136;BLOCK SEXTANT-236;BLOCK SEXTANT-1236;BLOCK SEXTANT-46;BLOCK SEXTANT-146
BLOCK SEXTANT-1246;BLOCK SEXTANT-346;BLOCK SEXTANT-1346;BLOCK SEXTANT-2346;BLOCK SEXTANT-12346
BLOCK SEXTANT-56;BLOCK SEXTANT-156;BLOCK SEXTANT-256;BLOCK SEXTANT-1256;BLOCK SEXTANT-356
BLOCK SEXTANT-1356;BLOCK SEXTANT-2356;BLOCK SEXTANT-12356;BLOCK SEXTANT-456;BLOCK SEXTANT-1456
BLOCK SEXTANT-2456;BLOCK SEXTANT-12456;BLOCK SEXTANT-3456;BLOCK SEXTANT-13456;BLOCK SEXTANT-23456
LOWER LEFT BLOCK DIAGONAL LOWER MIDDLE LEFT TO LOWER CENTRE
LOWER LEFT BLOCK DIAGONAL LOWER MIDDLE LEFT TO LOWER RIGHT
LOWER LEFT BLOCK DIAGONAL UPPER MIDDLE LEFT TO LOWER CENTRE
LOWER LEFT BLOCK DIAGONAL UPPER MIDDLE LEFT TO LOWER RIGHT
LOWER LEFT BLOCK DIAGONAL UPPER LEFT TO LOWER CENTRE
LOWER RIGHT BLOCK DIAGONAL UPPER MIDDLE LEFT TO UPPER CENTRE
LOWER RIGHT BLOCK DIAGONAL UPPER MIDDLE LEFT TO UPPER RIGHT
LOWER RIGHT BLOCK DIAGONAL LOWER MIDDLE LEFT TO UPPER CENTRE
LOWER RIGHT BLOCK DIAGONAL LOWER MIDDLE LEFT TO UPPER RIGHT
LOWER RIGHT BLOCK DIAGONAL LOWER LEFT TO UPPER CENTRE
LOWER RIGHT BLOCK DIAGONAL LOWER MIDDLE LEFT TO UPPER MIDDLE RIGHT
LOWER RIGHT BLOCK DIAGONAL LOWER CENTRE TO LOWER MIDDLE RIGHT
LOWER RIGHT BLOCK DIAGONAL LOWER LEFT TO LOWER MIDDLE RIGHT
LOWER RIGHT BLOCK DIAGONAL LOWER CENTRE TO UPPER MIDDLE RIGHT
LOWER RIGHT BLOCK DIAGONAL LOWER LEFT TO UPPER MIDDLE RIGHT
LOWER RIGHT BLOCK DIAGONAL LOWER CENTRE TO UPPER RIGHT
LOWER LEFT BLOCK DIAGONAL UPPER CENTRE TO UPPER MIDDLE RIGHT
LOWER LEFT BLOCK DIAGONAL UPPER LEFT TO UPPER MIDDLE RIGHT
LOWER LEFT BLOCK DIAGONAL UPPER CENTRE TO LOWER MIDDLE RIGHT
LOWER LEFT BLOCK DIAGONAL UPPER LEFT TO LOWER MIDDLE RIGHT
LOWER LEFT BLOCK DIAGONAL UPPER CENTRE TO LOWER RIGHT
LOWER LEFT BLOCK DIAGONAL UPPER MIDDLE LEFT TO LOWER MIDDLE RIGHT
UPPER RIGHT BLOCK DIAGONAL LOWER MIDDLE LEFT TO LOWER CENTRE
UPPER RIGHT BLOCK DIAGONAL LOWER MIDDLE LEFT TO LOWER RIGHT
UPPER RIGHT BLOCK DIAGONAL UPPER MIDDLE LEFT TO LOWER CENTRE
UPPER RIGHT BLOCK DIAGONAL UPPER MIDDLE LEFT TO LOWER RIGHT
UPPER RIGHT BLOCK DIAGONAL UPPER LEFT TO LOWER CENTRE
UPPER LEFT BLOCK DIAGONAL UPPER MIDDLE LEFT TO UPPER CENTRE
UPPER LEFT BLOCK DIAGONAL UPPER MIDDLE LEFT TO UPPER RIGHT
UPPER LEFT BLOCK DIAGONAL LOWER MIDDLE LEFT TO UPPER CENTRE
UPPER LEFT BLOCK DIAGONAL LOWER MIDDLE LEFT TO UPPER RIGHT
UPPER LEFT BLOCK DIAGONAL LOWER LEFT TO UPPER CENTRE
UPPER LEFT BLOCK DIAGONAL LOWER MIDDLE LEFT TO UPPER MIDDLE RIGHT
UPPER LEFT BLOCK DIAGONAL LOWER CENTRE TO LOWER MIDDLE RIGHT
UPPER LEFT BLOCK DIAGONAL LOWER LEFT TO LOWER MIDDLE RIGHT
UPPER LEFT BLOCK DIAGONAL LOWER CENTRE TO UPPER MIDDLE RIGHT
UPPER LEFT BLOCK DIAGONAL LOWER LEFT TO UPPER MIDDLE RIGHT
UPPER LEFT BLOCK DIAGONAL LOWER CENTRE TO UPPER RIGHT
UPPER RIGHT BLOCK DIAGONAL UPPER CENTRE TO UPPER MIDDLE RIGHT
UPPER RIGHT BLOCK DIAGONAL UPPER LEFT TO UPPER MIDDLE RIGHT
UPPER RIGHT BLOCK DIAGONAL UPPER CENTRE TO LOWER MIDDLE RIGHT
UPPER RIGHT BLOCK DIAGONAL UPPER LEFT TO LOWER MIDDLE RIGHT
UPPER RIGHT BLOCK DIAGONAL UPPER CENTRE TO LOWER RIGHT
UPPER RIGHT BLOCK DIAGONAL UPPER MIDDLE LEFT TO LOWER MIDDLE RIGHT
UPPER AND RIGHT AND LOWER TRIANGULAR THREE QUARTERS BLOCK
LEFT AND LOWER AND RIGHT TRIANGULAR THREE QUARTERS BLOCK
UPPER AND LEFT AND LOWER TRIANGULAR THREE QUARTERS BLOCK
LEFT AND UPPER AND RIGHT TRIANGULAR THREE QUARTERS BLOCK;LEFT TRIANGULAR ONE QUARTER BLOCK
UPPER TRIANGULAR ONE QUARTER BLOCK;RIGHT TRIANGULAR ONE QUARTER BLOCK
LOWER TRIANGULAR ONE QUARTER BLOCK;VERTICAL ONE EIGHTH BLOCK-2;VERTICAL ONE EIGHTH BLOCK-3
VERTICAL ONE EIGHTH BLOCK-4;VERTICAL ONE EIGHTH BLOCK-5;VERTICAL ONE EIGHTH BLOCK-6
VERTICAL ONE EIGHTH BLOCK-7;HORIZONTAL ONE EIGHTH BLOCK-2;HORIZONTAL ONE EIGHTH BLOCK-3
HORIZONTAL ONE EIGHTH BLOCK-4;HORIZONTAL ONE EIGHTH BLOCK-5;HORIZONTAL ONE EIGHTH BLOCK-6
HORIZONTAL ONE EIGHTH BLOCK-7;LEFT AND LOWER ONE EIGHTH BLOCK;LEFT AND UPPER ONE EIGHTH BLOCK
RIGHT AND UPPER ONE EIGHTH BLOCK;RIGHT AND LOWER ONE EIGHTH BLOCK
UPPER AND LOWER ONE EIGHTH BLOCK;HORIZONTAL ONE EIGHTH BLOCK-1358;UPPER ONE QUARTER BLOCK
UPPER THREE EIGHTHS BLOCK;UPPER FIVE EIGHTHS BLOCK;UPPER THREE QUARTERS BLOCK
UPPER SEVEN EIGHTHS BLOCK;RIGHT ONE QUARTER BLOCK;RIGHT THREE EIGHTHS BLOCK
RIGHT FIVE EIGHTHS BLOCK;RIGHT THREE QUARTERS BLOCK;RIGHT SEVEN EIGHTHS BLOCK
LEFT HALF MEDIUM SHADE;RIGHT HALF MEDIUM SHADE;UPPER HALF MEDIUM SHADE;LOWER HALF MEDIUM SHADE
INVERSE MEDIUM SHADE;UPPER HALF BLOCK AND LOWER HALF INVERSE MEDIUM SHADE
UPPER HALF INVERSE MEDIUM SHADE AND LOWER HALF BLOCK"),
  (0x1fb94, "LEFT HALF INVERSE MEDIUM SHADE AND RIGHT HALF BLOCK;CHECKER BOARD FILL
INVERSE CHECKER BOARD FILL;HEAVY HORIZONTAL FILL;UPPER LEFT TO LOWER RIGHT FILL
UPPER RIGHT TO LOWER LEFT FILL;UPPER AND LOWER TRIANGULAR HALF BLOCK
LEFT AND RIGHT TRIANGULAR HALF BLOCK;UPPER LEFT TRIANGULAR MEDIUM SHADE
UPPER RIGHT TRIANGULAR MEDIUM SHADE;LOWER RIGHT TRIANGULAR MEDIUM SHADE
LOWER LEFT TRIANGULAR MEDIUM SHADE;BOX DRAWINGS LIGHT DIAGONAL UPPER CENTRE TO MIDDLE LEFT
BOX DRAWINGS LIGHT DIAGONAL UPPER CENTRE TO MIDDLE RIGHT
BOX DRAWINGS LIGHT DIAGONAL MIDDLE LEFT TO LOWER CENTRE
BOX DRAWINGS LIGHT DIAGONAL MIDDLE RIGHT TO LOWER CENTRE
BOX DRAWINGS LIGHT DIAGONAL UPPER CENTRE TO MIDDLE LEFT TO LOWER CENTRE
BOX DRAWINGS LIGHT DIAGONAL UPPER CENTRE TO MIDDLE RIGHT TO LOWER CENTRE
BOX DRAWINGS LIGHT DIAGONAL MIDDLE LEFT TO LOWER CENTRE TO MIDDLE RIGHT
BOX DRAWINGS LIGHT DIAGONAL MIDDLE LEFT TO UPPER CENTRE TO MIDDLE RIGHT
BOX DRAWINGS LIGHT DIAGONAL UPPER CENTRE TO MIDDLE LEFT AND MIDDLE RIGHT TO LOWER CENTRE
BOX DRAWINGS LIGHT DIAGONAL UPPER CENTRE TO MIDDLE RIGHT AND MIDDLE LEFT TO LOWER CENTRE
BOX DRAWINGS LIGHT DIAGONAL UPPER CENTRE TO MIDDLE RIGHT TO LOWER CENTRE TO MIDDLE LEFT
BOX DRAWINGS LIGHT DIAGONAL UPPER CENTRE TO MIDDLE LEFT TO LOWER CENTRE TO MIDDLE RIGHT
BOX DRAWINGS LIGHT DIAGONAL MIDDLE LEFT TO UPPER CENTRE TO MIDDLE RIGHT TO LOWER CENTRE
BOX DRAWINGS LIGHT DIAGONAL MIDDLE RIGHT TO UPPER CENTRE TO MIDDLE LEFT TO LOWER CENTRE
BOX DRAWINGS LIGHT DIAGONAL DIAMOND;BOX DRAWINGS LIGHT HORIZONTAL WITH VERTICAL STROKE
ARROWHEAD-SHAPED POINTER;INVERSE CHECK MARK;LEFT HALF RUNNING MAN;RIGHT HALF RUNNING MAN
INVERSE DOWNWARDS ARROW WITH TIP LEFTWARDS;LEFTWARDS ARROW AND UPPER AND LOWER ONE EIGHTH BLOCK
RIGHTWARDS ARROW AND UPPER AND LOWER ONE EIGHTH BLOCK;DOWNWARDS ARROW AND RIGHT ONE EIGHTH BLOCK
UPWARDS ARROW AND RIGHT ONE EIGHTH BLOCK;LEFT HALF FOLDER;RIGHT HALF FOLDER;VOIDED GREEK CROSS
RIGHT OPEN SQUARED DOT;NEGATIVE DIAGONAL CROSS;NEGATIVE DIAGONAL MIDDLE RIGHT TO LOWER CENTRE
NEGATIVE DIAGONAL DIAMOND;WHITE HEAVY SALTIRE WITH ROUNDED CORNERS
LEFT THIRD WHITE RIGHT POINTING INDEX;MIDDLE THIRD WHITE RIGHT POINTING INDEX
RIGHT THIRD WHITE RIGHT POINTING INDEX;NEGATIVE SQUARED QUESTION MARK;STICK FIGURE
STICK FIGURE WITH ARMS RAISED;STICK FIGURE LEANING LEFT;STICK FIGURE LEANING RIGHT
STICK FIGURE WITH DRESS;WHITE UP-POINTING CHEVRON"),
  (0x1fbf0, "SEGMENTED DIGIT ZERO;SEGMENTED DIGIT ONE;SEGMENTED DIGIT TWO;SEGMENTED DIGIT THREE
SEGMENTED DIGIT FOUR;SEGMENTED DIGIT FIVE;SEGMENTED DIGIT SIX;SEGMENTED DIGIT SEVEN
SEGMENTED DIGIT EIGHT;SEGMENTED DIGIT NINE"),
  (0xe0001, "LANGUAGE TAG"),
  (0xe0020, "TAG SPACE;TAG EXCLAMATION MARK;TAG QUOTATION MARK;TAG NUMBER SIGN;TAG DOLLAR SIGN
TAG PERCENT SIGN;TAG AMPERSAND;TAG APOSTROPHE;TAG LEFT PARENTHESIS;TAG RIGHT PARENTHESIS
TAG ASTERISK;TAG PLUS SIGN;TAG COMMA;TAG HYPHEN-MINUS;TAG FULL STOP;TAG SOLIDUS;TAG DIGIT ZERO
TAG DIGIT ONE;TAG DIGIT TWO;TAG DIGIT THREE;TAG DIGIT FOUR;TAG DIGIT FIVE;TAG DIGIT SIX
TAG DIGIT SEVEN;TAG DIGIT EIGHT;TAG DIGIT NINE;TAG COLON;TAG SEMICOLON;TAG LESS-THAN SIGN
TAG EQUALS SIGN;TAG GREATER-THAN SIGN;TAG QUESTION MARK;TAG COMMERCIAL AT
TAG LATIN CAPITAL LETTER A;TAG LATIN CAPITAL LETTER B;TAG LATIN CAPITAL LETTER C
TAG LATIN CAPITAL LETTER D;TAG LATIN CAPITAL LETTER E;TAG LATIN CAPITAL LETTER F
TAG LATIN CAPITAL LETTER G;TAG LATIN CAPITAL LETTER H;TAG LATIN CAPITAL LETTER I
TAG LATIN CAPITAL LETTER J;TAG LATIN CAPITAL LETTER K;TAG LATIN CAPITAL LETTER L
TAG LATIN CAPITAL LETTER M;TAG LATIN CAPITAL LETTER N;TAG LATIN CAPITAL LETTER O
TAG LATIN CAPITAL LETTER P;TAG LATIN CAPITAL LETTER Q;TAG LATIN CAPITAL LETTER R
TAG LATIN CAPITAL LETTER S;TAG LATIN CAPITAL LETTER T;TAG LATIN CAPITAL LETTER U
TAG LATIN CAPITAL LETTER V;TAG LATIN CAPITAL LETTER W;TAG LATIN CAPITAL LETTER X
TAG LATIN CAPITAL LETTER Y;TAG LATIN CAPITAL LETTER Z;TAG LEFT SQUARE BRACKET;TAG REVERSE SOLIDUS
TAG RIGHT SQUARE BRACKET;TAG CIRCUMFLEX ACCENT;TAG LOW LINE;TAG GRAVE ACCENT
TAG LATIN SMALL LETTER A;TAG LATIN SMALL LETTER B;TAG LATIN SMALL LETTER C
TAG LATIN SMALL LETTER D;TAG LATIN SMALL LETTER E;TAG LATIN SMALL LETTER F
TAG LATIN SMALL LETTER G;TAG LATIN SMALL LETTER H;TAG LATIN SMALL LETTER I
TAG LATIN SMALL LETTER J;TAG LATIN SMALL LETTER K;TAG LATIN SMALL LETTER L
TAG LATIN SMALL LETTER M;TAG LATIN SMALL LETTER N;TAG LATIN SMALL LETTER O
TAG LATIN SMALL LETTER P;TAG LATIN SMALL LETTER Q;TAG LATIN SMALL LETTER R
TAG LATIN SMALL LETTER S;TAG LATIN SMALL LETTER T;TAG LATIN SMALL LETTER U
TAG LATIN SMALL LETTER V;TAG LATIN SMALL LETTER W;TAG LATIN SMALL LETTER X
TAG LATIN SMALL LETTER Y;TAG LATIN SMALL LETTER Z;TAG LEFT CURLY BRACKET;TAG VERTICAL LINE
TAG RIGHT CURLY BRACKET;TAG TILDE;CANCEL TAG"),
  (0xe0100, "VARIATION SELECTOR-17;VARIATION SELECTOR-18;VARIATION SELECTOR-19
VARIATION SELECTOR-20;VARIATION SELECTOR-21;VARIATION SELECTOR-22;VARIATION SELECTOR-23
VARIATION SELECTOR-24;VARIATION SELECTOR-25;VARIATION SELECTOR-26;VARIATION SELECTOR-27
VARIATION SELECTOR-28;VARIATION SELECTOR-29;VARIATION SELECTOR-30;VARIATION SELECTOR-31
VARIATION SELECTOR-32;VARIATION SELECTOR-33;VARIATION SELECTOR-34;VARIATION SELECTOR-35
VARIATION SELECTOR-36;VARIATION SELECTOR-37;VARIATION SELECTOR-38;VARIATION SELECTOR-39
VARIATION SELECTOR-40;VARIATION SELECTOR-41;VARIATION SELECTOR-42;VARIATION SELECTOR-43
VARIATION SELECTOR-44;VARIATION SELECTOR-45;VARIATION SELECTOR-46;VARIATION SELECTOR-47
VARIATION SELECTOR-48;VARIATION SELECTOR-49;VARIATION SELECTOR-50;VARIATION SELECTOR-51
VARIATION SELECTOR-52;VARIATION SELECTOR-53;VARIATION SELECTOR-54;VARIATION SELECTOR-55
VARIATION SELECTOR-56;VARIATION SELECTOR-57;VARIATION SELECTOR-58;VARIATION SELECTOR-59
VARIATION SELECTOR-60;VARIATION SELECTOR-61;VARIATION SELECTOR-62;VARIATION SELECTOR-63
VARIATION SELECTOR-64;VARIATION SELECTOR-65;VARIATION SELECTOR-66;VARIATION SELECTOR-67
VARIATION SELECTOR-68;VARIATION SELECTOR-69;VARIATION SELECTOR-70;VARIATION SELECTOR-71
VARIATION SELECTOR-72;VARIATION SELECTOR-73;VARIATION SELECTOR-74;VARIATION SELECTOR-75
VARIATION SELECTOR-76;VARIATION SELECTOR-77;VARIATION SELECTOR-78;VARIATION SELECTOR-79
VARIATION SELECTOR-80;VARIATION SELECTOR-81;VARIATION SELECTOR-82;VARIATION SELECTOR-83
VARIATION SELECTOR-84;VARIATION SELECTOR-85;VARIATION SELECTOR-86;VARIATION SELECTOR-87
VARIATION SELECTOR-88;VARIATION SELECTOR-89;VARIATION SELECTOR-90;VARIATION SELECTOR-91
VARIATION SELECTOR-92;VARIATION SELECTOR-93;VARIATION SELECTOR-94;VARIATION SELECTOR-95
VARIATION SELECTOR-96;VARIATION SELECTOR-97;VARIATION SELECTOR-98;VARIATION SELECTOR-99
VARIATION SELECTOR-100;VARIATION SELECTOR-101;VARIATION SELECTOR-102;VARIATION SELECTOR-103
VARIATION SELECTOR-104;VARIATION SELECTOR-105;VARIATION SELECTOR-106;VARIATION SELECTOR-107
VARIATION SELECTOR-108;VARIATION SELECTOR-109;VARIATION SELECTOR-110;VARIATION SELECTOR-111
VARIATION SELECTOR-112;VARIATION SELECTOR-113;VARIATION SELECTOR-114;VARIATION SELECTOR-115
VARIATION SELECTOR-116;VARIATION SELECTOR-117;VARIATION SELECTOR-118;VARIATION SELECTOR-119
VARIATION SELECTOR-120;VARIATION SELECTOR-121;VARIATION SELECTOR-122;VARIATION SELECTOR-123
VARIATION SELECTOR-124;VARIATION SELECTOR-125;VARIATION SELECTOR-126;VARIATION SELECTOR-127
VARIATION SELECTOR-128;VARIATION SELECTOR-129;VARIATION SELECTOR-130;VARIATION SELECTOR-131
VARIATION SELECTOR-132;VARIATION SELECTOR-133;VARIATION SELECTOR-134;VARIATION SELECTOR-135
VARIATION SELECTOR-136;VARIATION SELECTOR-137;VARIATION SELECTOR-138;VARIATION SELECTOR-139
VARIATION SELECTOR-140;VARIATION SELECTOR-141;VARIATION SELECTOR-142;VARIATION SELECTOR-143
VARIATION SELECTOR-144;VARIATION SELECTOR-145;VARIATION SELECTOR-146;VARIATION SELECTOR-147
VARIATION SELECTOR-148;VARIATION SELECTOR-149;VARIATION SELECTOR-150;VARIATION SELECTOR-151
VARIATION SELECTOR-152;VARIATION SELECTOR-153;VARIATION SELECTOR-154;VARIATION SELECTOR-155
VARIATION SELECTOR-156;VARIATION SELECTOR-157;VARIATION SELECTOR-158;VARIATION SELECTOR-159
VARIATION SELECTOR-160;VARIATION SELECTOR-161;VARIATION SELECTOR-162;VARIATION SELECTOR-163
VARIATION SELECTOR-164;VARIATION SELECTOR-165;VARIATION SELECTOR-166;VARIATION SELECTOR-167
VARIATION SELECTOR-168;VARIATION SELECTOR-169;VARIATION SELECTOR-170;VARIATION SELECTOR-171
VARIATION SELECTOR-172;VARIATION SELECTOR-173;VARIATION SELECTOR-174;VARIATION SELECTOR-175
VARIATION SELECTOR-176;VARIATION SELECTOR-177;VARIATION SELECTOR-178;VARIATION SELECTOR-179
VARIATION SELECTOR-180;VARIATION SELECTOR-181;VARIATION SELECTOR-182;VARIATION SELECTOR-183
VARIATION SELECTOR-184;VARIATION SELECTOR-185;VARIATION SELECTOR-186;VARIATION SELECTOR-187
VARIATION SELECTOR-188;VARIATION SELECTOR-189;VARIATION SELECTOR-190;VARIATION SELECTOR-191
VARIATION SELECTOR-192;VARIATION SELECTOR-193;VARIATION SELECTOR-194;VARIATION SELECTOR-195
VARIATION SELECTOR-196;VARIATION SELECTOR-197;VARIATION SELECTOR-198;VARIATION SELECTOR-199
VARIATION SELECTOR-200;VARIATION SELECTOR-201;VARIATION SELECTOR-202;VARIATION SELECTOR-203
VARIATION SELECTOR-204;VARIATION SELECTOR-205;VARIATION SELECTOR-206;VARIATION SELECTOR-207
VARIATION SELECTOR-208;VARIATION SELECTOR-209;VARIATION SELECTOR-210;VARIATION SELECTOR-211
VARIATION SELECTOR-212;VARIATION SELECTOR-213;VARIATION SELECTOR-214;VARIATION SELECTOR-215
VARIATION SELECTOR-216;VARIATION SELECTOR-217;VARIATION SELECTOR-218;VARIATION SELECTOR-219
VARIATION SELECTOR-220;VARIATION SELECTOR-221;VARIATION SELECTOR-222;VARIATION SELECTOR-223
VARIATION SELECTOR-224;VARIATION SELECTOR-225;VARIATION SELECTOR-226;VARIATION SELECTOR-227
VARIATION SELECTOR-228;VARIATION SELECTOR-229;VARIATION SELECTOR-230;VARIATION SELECTOR-231
VARIATION SELECTOR-232;VARIATION SELECTOR-233;VARIATION SELECTOR-234;VARIATION SELECTOR-235
VARIATION SELECTOR-236;VARIATION SELECTOR-237;VARIATION SELECTOR-238;VARIATION SELECTOR-239
VARIATION SELECTOR-240;VARIATION SELECTOR-241;VARIATION SELECTOR-242;VARIATION SELECTOR-243
VARIATION SELECTOR-244;VARIATION SELECTOR-245;VARIATION SELECTOR-246;VARIATION SELECTOR-247
VARIATION SELECTOR-248;VARIATION SELECTOR-249;VARIATION SELECTOR-250;VARIATION SELECTOR-251
VARIATION SELECTOR-252;VARIATION SELECTOR-253;VARIATION SELECTOR-254;VARIATION SELECTOR-255
VARIATION SELECTOR-256")]

end UrlRouting.Text
