/-!
# Names of characters from U+1D7CE to U+1F773

The names of Unicode 14.  Each entry gives the first of some characters in a row and their
names, one after the other, between semicolons and line ends.
-/

namespace UrlRouting.Text

/-- The names of the characters from U+1D7CE to U+1F773. -/
def namesFrom1D7CE : List (Nat × String) := [
  (0x1d7ce, "MATHEMATICAL BOLD DIGIT ZERO;MATHEMATICAL BOLD DIGIT ONE;MATHEMATICAL BOLD DIGIT TWO
MATHEMATICAL BOLD DIGIT THREE;MATHEMATICAL BOLD DIGIT FOUR;MATHEMATICAL BOLD DIGIT FIVE
MATHEMATICAL BOLD DIGIT SIX;MATHEMATICAL BOLD DIGIT SEVEN;MATHEMATICAL BOLD DIGIT EIGHT
MATHEMATICAL BOLD DIGIT NINE;MATHEMATICAL DOUBLE-STRUCK DIGIT ZERO
MATHEMATICAL DOUBLE-STRUCK DIGIT ONE;MATHEMATICAL DOUBLE-STRUCK DIGIT TWO
MATHEMATICAL DOUBLE-STRUCK DIGIT THREE;MATHEMATICAL DOUBLE-STRUCK DIGIT FOUR
MATHEMATICAL DOUBLE-STRUCK DIGIT FIVE;MATHEMATICAL DOUBLE-STRUCK DIGIT SIX
MATHEMATICAL DOUBLE-STRUCK DIGIT SEVEN;MATHEMATICAL DOUBLE-STRUCK DIGIT EIGHT
MATHEMATICAL DOUBLE-STRUCK DIGIT NINE;MATHEMATICAL SANS-SERIF DIGIT ZERO
MATHEMATICAL SANS-SERIF DIGIT ONE;MATHEMATICAL SANS-SERIF DIGIT TWO
MATHEMATICAL SANS-SERIF DIGIT THREE;MATHEMATICAL SANS-SERIF DIGIT FOUR
MATHEMATICAL SANS-SERIF DIGIT FIVE;MATHEMATICAL SANS-SERIF DIGIT SIX
MATHEMATICAL SANS-SERIF DIGIT SEVEN;MATHEMATICAL SANS-SERIF DIGIT EIGHT
MATHEMATICAL SANS-SERIF DIGIT NINE;MATHEMATICAL SANS-SERIF BOLD DIGIT ZERO
MATHEMATICAL SANS-SERIF BOLD DIGIT ONE;MATHEMATICAL SANS-SERIF BOLD DIGIT TWO
MATHEMATICAL SANS-SERIF BOLD DIGIT THREE;MATHEMATICAL SANS-SERIF BOLD DIGIT FOUR
MATHEMATICAL SANS-SERIF BOLD DIGIT FIVE;MATHEMATICAL SANS-SERIF BOLD DIGIT SIX
MATHEMATICAL SANS-SERIF BOLD DIGIT SEVEN;MATHEMATICAL SANS-SERIF BOLD DIGIT EIGHT
MATHEMATICAL SANS-SERIF BOLD DIGIT NINE;MATHEMATICAL MONOSPACE DIGIT ZERO
MATHEMATICAL MONOSPACE DIGIT ONE;MATHEMATICAL MONOSPACE DIGIT TWO
MATHEMATICAL MONOSPACE DIGIT THREE;MATHEMATICAL MONOSPACE DIGIT FOUR
MATHEMATICAL MONOSPACE DIGIT FIVE;MATHEMATICAL MONOSPACE DIGIT SIX
MATHEMATICAL MONOSPACE DIGIT SEVEN;MATHEMATICAL MONOSPACE DIGIT EIGHT
MATHEMATICAL MONOSPACE DIGIT NINE;SIGNWRITING HAND-FIST INDEX;SIGNWRITING HAND-CIRCLE INDEX
SIGNWRITING HAND-CUP INDEX;SIGNWRITING HAND-OVAL INDEX;SIGNWRITING HAND-HINGE INDEX
SIGNWRITING HAND-ANGLE INDEX;SIGNWRITING HAND-FIST INDEX BENT;SIGNWRITING HAND-CIRCLE INDEX BENT
SIGNWRITING HAND-FIST THUMB UNDER INDEX BENT;SIGNWRITING HAND-FIST INDEX RAISED KNUCKLE
SIGNWRITING HAND-FIST INDEX CUPPED;SIGNWRITING HAND-FIST INDEX HINGED
SIGNWRITING HAND-FIST INDEX HINGED LOW;SIGNWRITING HAND-CIRCLE INDEX HINGE
SIGNWRITING HAND-FIST INDEX MIDDLE;SIGNWRITING HAND-CIRCLE INDEX MIDDLE
SIGNWRITING HAND-FIST INDEX MIDDLE BENT;SIGNWRITING HAND-FIST INDEX MIDDLE RAISED KNUCKLES
SIGNWRITING HAND-FIST INDEX MIDDLE HINGED;SIGNWRITING HAND-FIST INDEX UP MIDDLE HINGED
SIGNWRITING HAND-FIST INDEX HINGED MIDDLE UP;SIGNWRITING HAND-FIST INDEX MIDDLE CONJOINED
SIGNWRITING HAND-FIST INDEX MIDDLE CONJOINED INDEX BENT
SIGNWRITING HAND-FIST INDEX MIDDLE CONJOINED MIDDLE BENT
SIGNWRITING HAND-FIST INDEX MIDDLE CONJOINED CUPPED
SIGNWRITING HAND-FIST INDEX MIDDLE CONJOINED HINGED;SIGNWRITING HAND-FIST INDEX MIDDLE CROSSED
SIGNWRITING HAND-CIRCLE INDEX MIDDLE CROSSED;SIGNWRITING HAND-FIST MIDDLE BENT OVER INDEX
SIGNWRITING HAND-FIST INDEX BENT OVER MIDDLE;SIGNWRITING HAND-FIST INDEX MIDDLE THUMB
SIGNWRITING HAND-CIRCLE INDEX MIDDLE THUMB;SIGNWRITING HAND-FIST INDEX MIDDLE STRAIGHT THUMB BENT
SIGNWRITING HAND-FIST INDEX MIDDLE BENT THUMB STRAIGHT
SIGNWRITING HAND-FIST INDEX MIDDLE THUMB BENT
SIGNWRITING HAND-FIST INDEX MIDDLE HINGED SPREAD THUMB SIDE
SIGNWRITING HAND-FIST INDEX UP MIDDLE HINGED THUMB SIDE
SIGNWRITING HAND-FIST INDEX UP MIDDLE HINGED THUMB CONJOINED
SIGNWRITING HAND-FIST INDEX HINGED MIDDLE UP THUMB SIDE
SIGNWRITING HAND-FIST INDEX MIDDLE UP SPREAD THUMB FORWARD
SIGNWRITING HAND-FIST INDEX MIDDLE THUMB CUPPED;SIGNWRITING HAND-FIST INDEX MIDDLE THUMB CIRCLED
SIGNWRITING HAND-FIST INDEX MIDDLE THUMB HOOKED;SIGNWRITING HAND-FIST INDEX MIDDLE THUMB HINGED
SIGNWRITING HAND-FIST THUMB BETWEEN INDEX MIDDLE STRAIGHT
SIGNWRITING HAND-FIST INDEX MIDDLE CONJOINED THUMB SIDE
SIGNWRITING HAND-FIST INDEX MIDDLE CONJOINED THUMB SIDE CONJOINED
SIGNWRITING HAND-FIST INDEX MIDDLE CONJOINED THUMB SIDE BENT
SIGNWRITING HAND-FIST MIDDLE THUMB HOOKED INDEX UP
SIGNWRITING HAND-FIST INDEX THUMB HOOKED MIDDLE UP
SIGNWRITING HAND-FIST INDEX MIDDLE CONJOINED HINGED THUMB SIDE
SIGNWRITING HAND-FIST INDEX MIDDLE CROSSED THUMB SIDE
SIGNWRITING HAND-FIST INDEX MIDDLE CONJOINED THUMB FORWARD
SIGNWRITING HAND-FIST INDEX MIDDLE CONJOINED CUPPED THUMB FORWARD
SIGNWRITING HAND-FIST MIDDLE THUMB CUPPED INDEX UP
SIGNWRITING HAND-FIST INDEX THUMB CUPPED MIDDLE UP
SIGNWRITING HAND-FIST MIDDLE THUMB CIRCLED INDEX UP
SIGNWRITING HAND-FIST MIDDLE THUMB CIRCLED INDEX HINGED
SIGNWRITING HAND-FIST INDEX THUMB ANGLED OUT MIDDLE UP
SIGNWRITING HAND-FIST INDEX THUMB ANGLED IN MIDDLE UP
SIGNWRITING HAND-FIST INDEX THUMB CIRCLED MIDDLE UP
SIGNWRITING HAND-FIST INDEX MIDDLE THUMB CONJOINED HINGED
SIGNWRITING HAND-FIST INDEX MIDDLE THUMB ANGLED OUT
SIGNWRITING HAND-FIST INDEX MIDDLE THUMB ANGLED
SIGNWRITING HAND-FIST MIDDLE THUMB ANGLED OUT INDEX UP
SIGNWRITING HAND-FIST MIDDLE THUMB ANGLED OUT INDEX CROSSED
SIGNWRITING HAND-FIST MIDDLE THUMB ANGLED INDEX UP
SIGNWRITING HAND-FIST INDEX THUMB HOOKED MIDDLE HINGED;SIGNWRITING HAND-FLAT FOUR FINGERS
SIGNWRITING HAND-FLAT FOUR FINGERS BENT;SIGNWRITING HAND-FLAT FOUR FINGERS HINGED
SIGNWRITING HAND-FLAT FOUR FINGERS CONJOINED;SIGNWRITING HAND-FLAT FOUR FINGERS CONJOINED SPLIT
SIGNWRITING HAND-CLAW FOUR FINGERS CONJOINED;SIGNWRITING HAND-FIST FOUR FINGERS CONJOINED BENT
SIGNWRITING HAND-HINGE FOUR FINGERS CONJOINED;SIGNWRITING HAND-FLAT FIVE FINGERS SPREAD
SIGNWRITING HAND-FLAT HEEL FIVE FINGERS SPREAD
SIGNWRITING HAND-FLAT FIVE FINGERS SPREAD FOUR BENT
SIGNWRITING HAND-FLAT HEEL FIVE FINGERS SPREAD FOUR BENT
SIGNWRITING HAND-FLAT FIVE FINGERS SPREAD BENT
SIGNWRITING HAND-FLAT HEEL FIVE FINGERS SPREAD BENT
SIGNWRITING HAND-FLAT FIVE FINGERS SPREAD THUMB FORWARD;SIGNWRITING HAND-CUP FIVE FINGERS SPREAD
SIGNWRITING HAND-CUP FIVE FINGERS SPREAD OPEN;SIGNWRITING HAND-HINGE FIVE FINGERS SPREAD OPEN
SIGNWRITING HAND-OVAL FIVE FINGERS SPREAD;SIGNWRITING HAND-FLAT FIVE FINGERS SPREAD HINGED
SIGNWRITING HAND-FLAT FIVE FINGERS SPREAD HINGED THUMB SIDE
SIGNWRITING HAND-FLAT FIVE FINGERS SPREAD HINGED NO THUMB;SIGNWRITING HAND-FLAT
SIGNWRITING HAND-FLAT BETWEEN PALM FACINGS;SIGNWRITING HAND-FLAT HEEL
SIGNWRITING HAND-FLAT THUMB SIDE;SIGNWRITING HAND-FLAT HEEL THUMB SIDE
SIGNWRITING HAND-FLAT THUMB BENT;SIGNWRITING HAND-FLAT THUMB FORWARD
SIGNWRITING HAND-FLAT SPLIT INDEX THUMB SIDE;SIGNWRITING HAND-FLAT SPLIT CENTRE
SIGNWRITING HAND-FLAT SPLIT CENTRE THUMB SIDE;SIGNWRITING HAND-FLAT SPLIT CENTRE THUMB SIDE BENT
SIGNWRITING HAND-FLAT SPLIT LITTLE;SIGNWRITING HAND-CLAW;SIGNWRITING HAND-CLAW THUMB SIDE
SIGNWRITING HAND-CLAW NO THUMB;SIGNWRITING HAND-CLAW THUMB FORWARD;SIGNWRITING HAND-HOOK CURLICUE
SIGNWRITING HAND-HOOK;SIGNWRITING HAND-CUP OPEN;SIGNWRITING HAND-CUP
SIGNWRITING HAND-CUP OPEN THUMB SIDE;SIGNWRITING HAND-CUP THUMB SIDE
SIGNWRITING HAND-CUP OPEN NO THUMB;SIGNWRITING HAND-CUP NO THUMB
SIGNWRITING HAND-CUP OPEN THUMB FORWARD;SIGNWRITING HAND-CUP THUMB FORWARD
SIGNWRITING HAND-CURLICUE OPEN;SIGNWRITING HAND-CURLICUE;SIGNWRITING HAND-CIRCLE
SIGNWRITING HAND-OVAL;SIGNWRITING HAND-OVAL THUMB SIDE;SIGNWRITING HAND-OVAL NO THUMB
SIGNWRITING HAND-OVAL THUMB FORWARD;SIGNWRITING HAND-HINGE OPEN
SIGNWRITING HAND-HINGE OPEN THUMB FORWARD;SIGNWRITING HAND-HINGE;SIGNWRITING HAND-HINGE SMALL
SIGNWRITING HAND-HINGE OPEN THUMB SIDE;SIGNWRITING HAND-HINGE THUMB SIDE
SIGNWRITING HAND-HINGE OPEN NO THUMB;SIGNWRITING HAND-HINGE NO THUMB
SIGNWRITING HAND-HINGE THUMB SIDE TOUCHING INDEX;SIGNWRITING HAND-HINGE THUMB BETWEEN MIDDLE RING
SIGNWRITING HAND-ANGLE;SIGNWRITING HAND-FIST INDEX MIDDLE RING
SIGNWRITING HAND-CIRCLE INDEX MIDDLE RING;SIGNWRITING HAND-HINGE INDEX MIDDLE RING
SIGNWRITING HAND-ANGLE INDEX MIDDLE RING;SIGNWRITING HAND-HINGE LITTLE
SIGNWRITING HAND-FIST INDEX MIDDLE RING BENT;SIGNWRITING HAND-FIST INDEX MIDDLE RING CONJOINED
SIGNWRITING HAND-HINGE INDEX MIDDLE RING CONJOINED;SIGNWRITING HAND-FIST LITTLE DOWN
SIGNWRITING HAND-FIST LITTLE DOWN RIPPLE STRAIGHT;SIGNWRITING HAND-FIST LITTLE DOWN RIPPLE CURVED
SIGNWRITING HAND-FIST LITTLE DOWN OTHERS CIRCLED;SIGNWRITING HAND-FIST LITTLE UP
SIGNWRITING HAND-FIST THUMB UNDER LITTLE UP;SIGNWRITING HAND-CIRCLE LITTLE UP
SIGNWRITING HAND-OVAL LITTLE UP;SIGNWRITING HAND-ANGLE LITTLE UP
SIGNWRITING HAND-FIST LITTLE RAISED KNUCKLE;SIGNWRITING HAND-FIST LITTLE BENT
SIGNWRITING HAND-FIST LITTLE TOUCHES THUMB;SIGNWRITING HAND-FIST LITTLE THUMB
SIGNWRITING HAND-HINGE LITTLE THUMB;SIGNWRITING HAND-FIST LITTLE INDEX THUMB
SIGNWRITING HAND-HINGE LITTLE INDEX THUMB
SIGNWRITING HAND-ANGLE LITTLE INDEX THUMB INDEX THUMB OUT
SIGNWRITING HAND-ANGLE LITTLE INDEX THUMB INDEX THUMB;SIGNWRITING HAND-FIST LITTLE INDEX
SIGNWRITING HAND-CIRCLE LITTLE INDEX;SIGNWRITING HAND-HINGE LITTLE INDEX
SIGNWRITING HAND-ANGLE LITTLE INDEX;SIGNWRITING HAND-FIST INDEX MIDDLE LITTLE
SIGNWRITING HAND-CIRCLE INDEX MIDDLE LITTLE;SIGNWRITING HAND-HINGE INDEX MIDDLE LITTLE
SIGNWRITING HAND-HINGE RING;SIGNWRITING HAND-ANGLE INDEX MIDDLE LITTLE
SIGNWRITING HAND-FIST INDEX MIDDLE CROSS LITTLE;SIGNWRITING HAND-CIRCLE INDEX MIDDLE CROSS LITTLE
SIGNWRITING HAND-FIST RING DOWN;SIGNWRITING HAND-HINGE RING DOWN INDEX THUMB HOOK MIDDLE
SIGNWRITING HAND-ANGLE RING DOWN MIDDLE THUMB INDEX CROSS;SIGNWRITING HAND-FIST RING UP
SIGNWRITING HAND-FIST RING RAISED KNUCKLE;SIGNWRITING HAND-FIST RING LITTLE
SIGNWRITING HAND-CIRCLE RING LITTLE;SIGNWRITING HAND-OVAL RING LITTLE
SIGNWRITING HAND-ANGLE RING LITTLE;SIGNWRITING HAND-FIST RING MIDDLE
SIGNWRITING HAND-FIST RING MIDDLE CONJOINED;SIGNWRITING HAND-FIST RING MIDDLE RAISED KNUCKLES
SIGNWRITING HAND-FIST RING INDEX;SIGNWRITING HAND-FIST RING THUMB
SIGNWRITING HAND-HOOK RING THUMB;SIGNWRITING HAND-FIST INDEX RING LITTLE
SIGNWRITING HAND-CIRCLE INDEX RING LITTLE;SIGNWRITING HAND-CURLICUE INDEX RING LITTLE ON
SIGNWRITING HAND-HOOK INDEX RING LITTLE OUT;SIGNWRITING HAND-HOOK INDEX RING LITTLE IN
SIGNWRITING HAND-HOOK INDEX RING LITTLE UNDER;SIGNWRITING HAND-CUP INDEX RING LITTLE
SIGNWRITING HAND-HINGE INDEX RING LITTLE;SIGNWRITING HAND-ANGLE INDEX RING LITTLE OUT
SIGNWRITING HAND-ANGLE INDEX RING LITTLE;SIGNWRITING HAND-FIST MIDDLE DOWN
SIGNWRITING HAND-HINGE MIDDLE;SIGNWRITING HAND-FIST MIDDLE UP;SIGNWRITING HAND-CIRCLE MIDDLE UP
SIGNWRITING HAND-FIST MIDDLE RAISED KNUCKLE;SIGNWRITING HAND-FIST MIDDLE UP THUMB SIDE
SIGNWRITING HAND-HOOK MIDDLE THUMB;SIGNWRITING HAND-FIST MIDDLE THUMB LITTLE
SIGNWRITING HAND-FIST MIDDLE LITTLE;SIGNWRITING HAND-FIST MIDDLE RING LITTLE
SIGNWRITING HAND-CIRCLE MIDDLE RING LITTLE;SIGNWRITING HAND-CURLICUE MIDDLE RING LITTLE ON
SIGNWRITING HAND-CUP MIDDLE RING LITTLE;SIGNWRITING HAND-HINGE MIDDLE RING LITTLE
SIGNWRITING HAND-ANGLE MIDDLE RING LITTLE OUT;SIGNWRITING HAND-ANGLE MIDDLE RING LITTLE IN
SIGNWRITING HAND-ANGLE MIDDLE RING LITTLE;SIGNWRITING HAND-CIRCLE MIDDLE RING LITTLE BENT
SIGNWRITING HAND-CLAW MIDDLE RING LITTLE CONJOINED
SIGNWRITING HAND-CLAW MIDDLE RING LITTLE CONJOINED SIDE
SIGNWRITING HAND-HOOK MIDDLE RING LITTLE CONJOINED OUT
SIGNWRITING HAND-HOOK MIDDLE RING LITTLE CONJOINED IN
SIGNWRITING HAND-HOOK MIDDLE RING LITTLE CONJOINED;SIGNWRITING HAND-HINGE INDEX HINGED
SIGNWRITING HAND-FIST INDEX THUMB SIDE;SIGNWRITING HAND-HINGE INDEX THUMB SIDE
SIGNWRITING HAND-FIST INDEX THUMB SIDE THUMB DIAGONAL
SIGNWRITING HAND-FIST INDEX THUMB SIDE THUMB CONJOINED
SIGNWRITING HAND-FIST INDEX THUMB SIDE THUMB BENT
SIGNWRITING HAND-FIST INDEX THUMB SIDE INDEX BENT
SIGNWRITING HAND-FIST INDEX THUMB SIDE BOTH BENT
SIGNWRITING HAND-FIST INDEX THUMB SIDE INDEX HINGE
SIGNWRITING HAND-FIST INDEX THUMB FORWARD INDEX STRAIGHT
SIGNWRITING HAND-FIST INDEX THUMB FORWARD INDEX BENT;SIGNWRITING HAND-FIST INDEX THUMB HOOK
SIGNWRITING HAND-FIST INDEX THUMB CURLICUE;SIGNWRITING HAND-FIST INDEX THUMB CURVE THUMB INSIDE
SIGNWRITING HAND-CLAW INDEX THUMB CURVE THUMB INSIDE
SIGNWRITING HAND-FIST INDEX THUMB CURVE THUMB UNDER;SIGNWRITING HAND-FIST INDEX THUMB CIRCLE
SIGNWRITING HAND-CUP INDEX THUMB;SIGNWRITING HAND-CUP INDEX THUMB OPEN
SIGNWRITING HAND-HINGE INDEX THUMB OPEN;SIGNWRITING HAND-HINGE INDEX THUMB LARGE
SIGNWRITING HAND-HINGE INDEX THUMB;SIGNWRITING HAND-HINGE INDEX THUMB SMALL
SIGNWRITING HAND-ANGLE INDEX THUMB OUT;SIGNWRITING HAND-ANGLE INDEX THUMB IN
SIGNWRITING HAND-ANGLE INDEX THUMB;SIGNWRITING HAND-FIST THUMB;SIGNWRITING HAND-FIST THUMB HEEL
SIGNWRITING HAND-FIST THUMB SIDE DIAGONAL;SIGNWRITING HAND-FIST THUMB SIDE CONJOINED
SIGNWRITING HAND-FIST THUMB SIDE BENT;SIGNWRITING HAND-FIST THUMB FORWARD
SIGNWRITING HAND-FIST THUMB BETWEEN INDEX MIDDLE;SIGNWRITING HAND-FIST THUMB BETWEEN MIDDLE RING
SIGNWRITING HAND-FIST THUMB BETWEEN RING LITTLE;SIGNWRITING HAND-FIST THUMB UNDER TWO FINGERS
SIGNWRITING HAND-FIST THUMB OVER TWO FINGERS;SIGNWRITING HAND-FIST THUMB UNDER THREE FINGERS
SIGNWRITING HAND-FIST THUMB UNDER FOUR FINGERS
SIGNWRITING HAND-FIST THUMB OVER FOUR RAISED KNUCKLES;SIGNWRITING HAND-FIST
SIGNWRITING HAND-FIST HEEL;SIGNWRITING TOUCH SINGLE;SIGNWRITING TOUCH MULTIPLE
SIGNWRITING TOUCH BETWEEN;SIGNWRITING GRASP SINGLE;SIGNWRITING GRASP MULTIPLE
SIGNWRITING GRASP BETWEEN;SIGNWRITING STRIKE SINGLE;SIGNWRITING STRIKE MULTIPLE
SIGNWRITING STRIKE BETWEEN;SIGNWRITING BRUSH SINGLE;SIGNWRITING BRUSH MULTIPLE
SIGNWRITING BRUSH BETWEEN;SIGNWRITING RUB SINGLE;SIGNWRITING RUB MULTIPLE;SIGNWRITING RUB BETWEEN
SIGNWRITING SURFACE SYMBOLS;SIGNWRITING SURFACE BETWEEN;SIGNWRITING SQUEEZE LARGE SINGLE
SIGNWRITING SQUEEZE SMALL SINGLE;SIGNWRITING SQUEEZE LARGE MULTIPLE
SIGNWRITING SQUEEZE SMALL MULTIPLE;SIGNWRITING SQUEEZE SEQUENTIAL;SIGNWRITING FLICK LARGE SINGLE
SIGNWRITING FLICK SMALL SINGLE;SIGNWRITING FLICK LARGE MULTIPLE;SIGNWRITING FLICK SMALL MULTIPLE
SIGNWRITING FLICK SEQUENTIAL;SIGNWRITING SQUEEZE FLICK ALTERNATING
SIGNWRITING MOVEMENT-HINGE UP DOWN LARGE;SIGNWRITING MOVEMENT-HINGE UP DOWN SMALL
SIGNWRITING MOVEMENT-HINGE UP SEQUENTIAL;SIGNWRITING MOVEMENT-HINGE DOWN SEQUENTIAL
SIGNWRITING MOVEMENT-HINGE UP DOWN ALTERNATING LARGE
SIGNWRITING MOVEMENT-HINGE UP DOWN ALTERNATING SMALL
SIGNWRITING MOVEMENT-HINGE SIDE TO SIDE SCISSORS;SIGNWRITING MOVEMENT-WALLPLANE FINGER CONTACT
SIGNWRITING MOVEMENT-FLOORPLANE FINGER CONTACT
SIGNWRITING MOVEMENT-WALLPLANE SINGLE STRAIGHT SMALL
SIGNWRITING MOVEMENT-WALLPLANE SINGLE STRAIGHT MEDIUM
SIGNWRITING MOVEMENT-WALLPLANE SINGLE STRAIGHT LARGE
SIGNWRITING MOVEMENT-WALLPLANE SINGLE STRAIGHT LARGEST
SIGNWRITING MOVEMENT-WALLPLANE SINGLE WRIST FLEX;SIGNWRITING MOVEMENT-WALLPLANE DOUBLE STRAIGHT
SIGNWRITING MOVEMENT-WALLPLANE DOUBLE WRIST FLEX
SIGNWRITING MOVEMENT-WALLPLANE DOUBLE ALTERNATING
SIGNWRITING MOVEMENT-WALLPLANE DOUBLE ALTERNATING WRIST FLEX;SIGNWRITING MOVEMENT-WALLPLANE CROSS
SIGNWRITING MOVEMENT-WALLPLANE TRIPLE STRAIGHT MOVEMENT
SIGNWRITING MOVEMENT-WALLPLANE TRIPLE WRIST FLEX
SIGNWRITING MOVEMENT-WALLPLANE TRIPLE ALTERNATING
SIGNWRITING MOVEMENT-WALLPLANE TRIPLE ALTERNATING WRIST FLEX
SIGNWRITING MOVEMENT-WALLPLANE BEND SMALL;SIGNWRITING MOVEMENT-WALLPLANE BEND MEDIUM
SIGNWRITING MOVEMENT-WALLPLANE BEND LARGE;SIGNWRITING MOVEMENT-WALLPLANE CORNER SMALL
SIGNWRITING MOVEMENT-WALLPLANE CORNER MEDIUM;SIGNWRITING MOVEMENT-WALLPLANE CORNER LARGE
SIGNWRITING MOVEMENT-WALLPLANE CORNER ROTATION;SIGNWRITING MOVEMENT-WALLPLANE CHECK SMALL
SIGNWRITING MOVEMENT-WALLPLANE CHECK MEDIUM;SIGNWRITING MOVEMENT-WALLPLANE CHECK LARGE
SIGNWRITING MOVEMENT-WALLPLANE BOX SMALL;SIGNWRITING MOVEMENT-WALLPLANE BOX MEDIUM
SIGNWRITING MOVEMENT-WALLPLANE BOX LARGE;SIGNWRITING MOVEMENT-WALLPLANE ZIGZAG SMALL
SIGNWRITING MOVEMENT-WALLPLANE ZIGZAG MEDIUM;SIGNWRITING MOVEMENT-WALLPLANE ZIGZAG LARGE
SIGNWRITING MOVEMENT-WALLPLANE PEAKS SMALL;SIGNWRITING MOVEMENT-WALLPLANE PEAKS MEDIUM
SIGNWRITING MOVEMENT-WALLPLANE PEAKS LARGE;SIGNWRITING TRAVEL-WALLPLANE ROTATION-WALLPLANE SINGLE
SIGNWRITING TRAVEL-WALLPLANE ROTATION-WALLPLANE DOUBLE
SIGNWRITING TRAVEL-WALLPLANE ROTATION-WALLPLANE ALTERNATING
SIGNWRITING TRAVEL-WALLPLANE ROTATION-FLOORPLANE SINGLE
SIGNWRITING TRAVEL-WALLPLANE ROTATION-FLOORPLANE DOUBLE
SIGNWRITING TRAVEL-WALLPLANE ROTATION-FLOORPLANE ALTERNATING;SIGNWRITING TRAVEL-WALLPLANE SHAKING
SIGNWRITING TRAVEL-WALLPLANE ARM SPIRAL SINGLE;SIGNWRITING TRAVEL-WALLPLANE ARM SPIRAL DOUBLE
SIGNWRITING TRAVEL-WALLPLANE ARM SPIRAL TRIPLE;SIGNWRITING MOVEMENT-DIAGONAL AWAY SMALL
SIGNWRITING MOVEMENT-DIAGONAL AWAY MEDIUM;SIGNWRITING MOVEMENT-DIAGONAL AWAY LARGE
SIGNWRITING MOVEMENT-DIAGONAL AWAY LARGEST;SIGNWRITING MOVEMENT-DIAGONAL TOWARDS SMALL
SIGNWRITING MOVEMENT-DIAGONAL TOWARDS MEDIUM;SIGNWRITING MOVEMENT-DIAGONAL TOWARDS LARGE
SIGNWRITING MOVEMENT-DIAGONAL TOWARDS LARGEST;SIGNWRITING MOVEMENT-DIAGONAL BETWEEN AWAY SMALL
SIGNWRITING MOVEMENT-DIAGONAL BETWEEN AWAY MEDIUM
SIGNWRITING MOVEMENT-DIAGONAL BETWEEN AWAY LARGE
SIGNWRITING MOVEMENT-DIAGONAL BETWEEN AWAY LARGEST
SIGNWRITING MOVEMENT-DIAGONAL BETWEEN TOWARDS SMALL
SIGNWRITING MOVEMENT-DIAGONAL BETWEEN TOWARDS MEDIUM
SIGNWRITING MOVEMENT-DIAGONAL BETWEEN TOWARDS LARGE
SIGNWRITING MOVEMENT-DIAGONAL BETWEEN TOWARDS LARGEST
SIGNWRITING MOVEMENT-FLOORPLANE SINGLE STRAIGHT SMALL
SIGNWRITING MOVEMENT-FLOORPLANE SINGLE STRAIGHT MEDIUM
SIGNWRITING MOVEMENT-FLOORPLANE SINGLE STRAIGHT LARGE
SIGNWRITING MOVEMENT-FLOORPLANE SINGLE STRAIGHT LARGEST
SIGNWRITING MOVEMENT-FLOORPLANE SINGLE WRIST FLEX;SIGNWRITING MOVEMENT-FLOORPLANE DOUBLE STRAIGHT
SIGNWRITING MOVEMENT-FLOORPLANE DOUBLE WRIST FLEX
SIGNWRITING MOVEMENT-FLOORPLANE DOUBLE ALTERNATING
SIGNWRITING MOVEMENT-FLOORPLANE DOUBLE ALTERNATING WRIST FLEX
SIGNWRITING MOVEMENT-FLOORPLANE CROSS;SIGNWRITING MOVEMENT-FLOORPLANE TRIPLE STRAIGHT MOVEMENT
SIGNWRITING MOVEMENT-FLOORPLANE TRIPLE WRIST FLEX
SIGNWRITING MOVEMENT-FLOORPLANE TRIPLE ALTERNATING MOVEMENT
SIGNWRITING MOVEMENT-FLOORPLANE TRIPLE ALTERNATING WRIST FLEX
SIGNWRITING MOVEMENT-FLOORPLANE BEND;SIGNWRITING MOVEMENT-FLOORPLANE CORNER SMALL
SIGNWRITING MOVEMENT-FLOORPLANE CORNER MEDIUM;SIGNWRITING MOVEMENT-FLOORPLANE CORNER LARGE
SIGNWRITING MOVEMENT-FLOORPLANE CHECK;SIGNWRITING MOVEMENT-FLOORPLANE BOX SMALL
SIGNWRITING MOVEMENT-FLOORPLANE BOX MEDIUM;SIGNWRITING MOVEMENT-FLOORPLANE BOX LARGE
SIGNWRITING MOVEMENT-FLOORPLANE ZIGZAG SMALL;SIGNWRITING MOVEMENT-FLOORPLANE ZIGZAG MEDIUM
SIGNWRITING MOVEMENT-FLOORPLANE ZIGZAG LARGE;SIGNWRITING MOVEMENT-FLOORPLANE PEAKS SMALL
SIGNWRITING MOVEMENT-FLOORPLANE PEAKS MEDIUM;SIGNWRITING MOVEMENT-FLOORPLANE PEAKS LARGE
SIGNWRITING TRAVEL-FLOORPLANE ROTATION-FLOORPLANE SINGLE
SIGNWRITING TRAVEL-FLOORPLANE ROTATION-FLOORPLANE DOUBLE
SIGNWRITING TRAVEL-FLOORPLANE ROTATION-FLOORPLANE ALTERNATING
SIGNWRITING TRAVEL-FLOORPLANE ROTATION-WALLPLANE SINGLE
SIGNWRITING TRAVEL-FLOORPLANE ROTATION-WALLPLANE DOUBLE
SIGNWRITING TRAVEL-FLOORPLANE ROTATION-WALLPLANE ALTERNATING
SIGNWRITING TRAVEL-FLOORPLANE SHAKING;SIGNWRITING MOVEMENT-WALLPLANE CURVE QUARTER SMALL
SIGNWRITING MOVEMENT-WALLPLANE CURVE QUARTER MEDIUM
SIGNWRITING MOVEMENT-WALLPLANE CURVE QUARTER LARGE
SIGNWRITING MOVEMENT-WALLPLANE CURVE QUARTER LARGEST
SIGNWRITING MOVEMENT-WALLPLANE CURVE HALF-CIRCLE SMALL
SIGNWRITING MOVEMENT-WALLPLANE CURVE HALF-CIRCLE MEDIUM
SIGNWRITING MOVEMENT-WALLPLANE CURVE HALF-CIRCLE LARGE
SIGNWRITING MOVEMENT-WALLPLANE CURVE HALF-CIRCLE LARGEST
SIGNWRITING MOVEMENT-WALLPLANE CURVE THREE-QUARTER CIRCLE SMALL
SIGNWRITING MOVEMENT-WALLPLANE CURVE THREE-QUARTER CIRCLE MEDIUM
SIGNWRITING MOVEMENT-WALLPLANE HUMP SMALL;SIGNWRITING MOVEMENT-WALLPLANE HUMP MEDIUM
SIGNWRITING MOVEMENT-WALLPLANE HUMP LARGE;SIGNWRITING MOVEMENT-WALLPLANE LOOP SMALL
SIGNWRITING MOVEMENT-WALLPLANE LOOP MEDIUM;SIGNWRITING MOVEMENT-WALLPLANE LOOP LARGE
SIGNWRITING MOVEMENT-WALLPLANE LOOP SMALL DOUBLE
SIGNWRITING MOVEMENT-WALLPLANE WAVE CURVE DOUBLE SMALL
SIGNWRITING MOVEMENT-WALLPLANE WAVE CURVE DOUBLE MEDIUM
SIGNWRITING MOVEMENT-WALLPLANE WAVE CURVE DOUBLE LARGE
SIGNWRITING MOVEMENT-WALLPLANE WAVE CURVE TRIPLE SMALL
SIGNWRITING MOVEMENT-WALLPLANE WAVE CURVE TRIPLE MEDIUM
SIGNWRITING MOVEMENT-WALLPLANE WAVE CURVE TRIPLE LARGE
SIGNWRITING MOVEMENT-WALLPLANE CURVE THEN STRAIGHT
SIGNWRITING MOVEMENT-WALLPLANE CURVED CROSS SMALL
SIGNWRITING MOVEMENT-WALLPLANE CURVED CROSS MEDIUM;SIGNWRITING ROTATION-WALLPLANE SINGLE
SIGNWRITING ROTATION-WALLPLANE DOUBLE;SIGNWRITING ROTATION-WALLPLANE ALTERNATE
SIGNWRITING MOVEMENT-WALLPLANE SHAKING;SIGNWRITING MOVEMENT-WALLPLANE CURVE HITTING FRONT WALL
SIGNWRITING MOVEMENT-WALLPLANE HUMP HITTING FRONT WALL
SIGNWRITING MOVEMENT-WALLPLANE LOOP HITTING FRONT WALL
SIGNWRITING MOVEMENT-WALLPLANE WAVE HITTING FRONT WALL
SIGNWRITING ROTATION-WALLPLANE SINGLE HITTING FRONT WALL
SIGNWRITING ROTATION-WALLPLANE DOUBLE HITTING FRONT WALL
SIGNWRITING ROTATION-WALLPLANE ALTERNATING HITTING FRONT WALL
SIGNWRITING MOVEMENT-WALLPLANE CURVE HITTING CHEST
SIGNWRITING MOVEMENT-WALLPLANE HUMP HITTING CHEST
SIGNWRITING MOVEMENT-WALLPLANE LOOP HITTING CHEST
SIGNWRITING MOVEMENT-WALLPLANE WAVE HITTING CHEST
SIGNWRITING ROTATION-WALLPLANE SINGLE HITTING CHEST
SIGNWRITING ROTATION-WALLPLANE DOUBLE HITTING CHEST
SIGNWRITING ROTATION-WALLPLANE ALTERNATING HITTING CHEST
SIGNWRITING MOVEMENT-WALLPLANE WAVE DIAGONAL PATH SMALL
SIGNWRITING MOVEMENT-WALLPLANE WAVE DIAGONAL PATH MEDIUM
SIGNWRITING MOVEMENT-WALLPLANE WAVE DIAGONAL PATH LARGE
SIGNWRITING MOVEMENT-FLOORPLANE CURVE HITTING CEILING SMALL
SIGNWRITING MOVEMENT-FLOORPLANE CURVE HITTING CEILING LARGE
SIGNWRITING MOVEMENT-FLOORPLANE HUMP HITTING CEILING SMALL DOUBLE
SIGNWRITING MOVEMENT-FLOORPLANE HUMP HITTING CEILING LARGE DOUBLE
SIGNWRITING MOVEMENT-FLOORPLANE HUMP HITTING CEILING SMALL TRIPLE
SIGNWRITING MOVEMENT-FLOORPLANE HUMP HITTING CEILING LARGE TRIPLE
SIGNWRITING MOVEMENT-FLOORPLANE LOOP HITTING CEILING SMALL SINGLE
SIGNWRITING MOVEMENT-FLOORPLANE LOOP HITTING CEILING LARGE SINGLE
SIGNWRITING MOVEMENT-FLOORPLANE LOOP HITTING CEILING SMALL DOUBLE
SIGNWRITING MOVEMENT-FLOORPLANE LOOP HITTING CEILING LARGE DOUBLE
SIGNWRITING MOVEMENT-FLOORPLANE WAVE HITTING CEILING SMALL
SIGNWRITING MOVEMENT-FLOORPLANE WAVE HITTING CEILING LARGE
SIGNWRITING ROTATION-FLOORPLANE SINGLE HITTING CEILING
SIGNWRITING ROTATION-FLOORPLANE DOUBLE HITTING CEILING
SIGNWRITING ROTATION-FLOORPLANE ALTERNATING HITTING CEILING
SIGNWRITING MOVEMENT-FLOORPLANE CURVE HITTING FLOOR SMALL
SIGNWRITING MOVEMENT-FLOORPLANE CURVE HITTING FLOOR LARGE
SIGNWRITING MOVEMENT-FLOORPLANE HUMP HITTING FLOOR SMALL DOUBLE
SIGNWRITING MOVEMENT-FLOORPLANE HUMP HITTING FLOOR LARGE DOUBLE
SIGNWRITING MOVEMENT-FLOORPLANE HUMP HITTING FLOOR TRIPLE SMALL TRIPLE
SIGNWRITING MOVEMENT-FLOORPLANE HUMP HITTING FLOOR TRIPLE LARGE TRIPLE
SIGNWRITING MOVEMENT-FLOORPLANE LOOP HITTING FLOOR SMALL SINGLE
SIGNWRITING MOVEMENT-FLOORPLANE LOOP HITTING FLOOR LARGE SINGLE
SIGNWRITING MOVEMENT-FLOORPLANE LOOP HITTING FLOOR SMALL DOUBLE
SIGNWRITING MOVEMENT-FLOORPLANE LOOP HITTING FLOOR LARGE DOUBLE
SIGNWRITING MOVEMENT-FLOORPLANE WAVE HITTING FLOOR SMALL
SIGNWRITING MOVEMENT-FLOORPLANE WAVE HITTING FLOOR LARGE
SIGNWRITING ROTATION-FLOORPLANE SINGLE HITTING FLOOR
SIGNWRITING ROTATION-FLOORPLANE DOUBLE HITTING FLOOR
SIGNWRITING ROTATION-FLOORPLANE ALTERNATING HITTING FLOOR
SIGNWRITING MOVEMENT-FLOORPLANE CURVE SMALL;SIGNWRITING MOVEMENT-FLOORPLANE CURVE MEDIUM
SIGNWRITING MOVEMENT-FLOORPLANE CURVE LARGE;SIGNWRITING MOVEMENT-FLOORPLANE CURVE LARGEST
SIGNWRITING MOVEMENT-FLOORPLANE CURVE COMBINED;SIGNWRITING MOVEMENT-FLOORPLANE HUMP SMALL
SIGNWRITING MOVEMENT-FLOORPLANE LOOP SMALL;SIGNWRITING MOVEMENT-FLOORPLANE WAVE SNAKE
SIGNWRITING MOVEMENT-FLOORPLANE WAVE SMALL;SIGNWRITING MOVEMENT-FLOORPLANE WAVE LARGE
SIGNWRITING ROTATION-FLOORPLANE SINGLE;SIGNWRITING ROTATION-FLOORPLANE DOUBLE
SIGNWRITING ROTATION-FLOORPLANE ALTERNATING;SIGNWRITING MOVEMENT-FLOORPLANE SHAKING PARALLEL
SIGNWRITING MOVEMENT-WALLPLANE ARM CIRCLE SMALL SINGLE
SIGNWRITING MOVEMENT-WALLPLANE ARM CIRCLE MEDIUM SINGLE
SIGNWRITING MOVEMENT-WALLPLANE ARM CIRCLE SMALL DOUBLE
SIGNWRITING MOVEMENT-WALLPLANE ARM CIRCLE MEDIUM DOUBLE
SIGNWRITING MOVEMENT-FLOORPLANE ARM CIRCLE HITTING WALL SMALL SINGLE
SIGNWRITING MOVEMENT-FLOORPLANE ARM CIRCLE HITTING WALL MEDIUM SINGLE
SIGNWRITING MOVEMENT-FLOORPLANE ARM CIRCLE HITTING WALL LARGE SINGLE
SIGNWRITING MOVEMENT-FLOORPLANE ARM CIRCLE HITTING WALL SMALL DOUBLE
SIGNWRITING MOVEMENT-FLOORPLANE ARM CIRCLE HITTING WALL MEDIUM DOUBLE
SIGNWRITING MOVEMENT-FLOORPLANE ARM CIRCLE HITTING WALL LARGE DOUBLE
SIGNWRITING MOVEMENT-WALLPLANE WRIST CIRCLE FRONT SINGLE
SIGNWRITING MOVEMENT-WALLPLANE WRIST CIRCLE FRONT DOUBLE
SIGNWRITING MOVEMENT-FLOORPLANE WRIST CIRCLE HITTING WALL SINGLE
SIGNWRITING MOVEMENT-FLOORPLANE WRIST CIRCLE HITTING WALL DOUBLE
SIGNWRITING MOVEMENT-WALLPLANE FINGER CIRCLES SINGLE
SIGNWRITING MOVEMENT-WALLPLANE FINGER CIRCLES DOUBLE
SIGNWRITING MOVEMENT-FLOORPLANE FINGER CIRCLES HITTING WALL SINGLE
SIGNWRITING MOVEMENT-FLOORPLANE FINGER CIRCLES HITTING WALL DOUBLE
SIGNWRITING DYNAMIC ARROWHEAD SMALL;SIGNWRITING DYNAMIC ARROWHEAD LARGE;SIGNWRITING DYNAMIC FAST
SIGNWRITING DYNAMIC SLOW;SIGNWRITING DYNAMIC TENSE;SIGNWRITING DYNAMIC RELAXED
SIGNWRITING DYNAMIC SIMULTANEOUS;SIGNWRITING DYNAMIC SIMULTANEOUS ALTERNATING
SIGNWRITING DYNAMIC EVERY OTHER TIME;SIGNWRITING DYNAMIC GRADUAL;SIGNWRITING HEAD
SIGNWRITING HEAD RIM;SIGNWRITING HEAD MOVEMENT-WALLPLANE STRAIGHT
SIGNWRITING HEAD MOVEMENT-WALLPLANE TILT;SIGNWRITING HEAD MOVEMENT-FLOORPLANE STRAIGHT
SIGNWRITING HEAD MOVEMENT-WALLPLANE CURVE;SIGNWRITING HEAD MOVEMENT-FLOORPLANE CURVE
SIGNWRITING HEAD MOVEMENT CIRCLE;SIGNWRITING FACE DIRECTION POSITION NOSE FORWARD TILTING
SIGNWRITING FACE DIRECTION POSITION NOSE UP OR DOWN
SIGNWRITING FACE DIRECTION POSITION NOSE UP OR DOWN TILTING;SIGNWRITING EYEBROWS STRAIGHT UP
SIGNWRITING EYEBROWS STRAIGHT NEUTRAL;SIGNWRITING EYEBROWS STRAIGHT DOWN
SIGNWRITING DREAMY EYEBROWS NEUTRAL DOWN;SIGNWRITING DREAMY EYEBROWS DOWN NEUTRAL
SIGNWRITING DREAMY EYEBROWS UP NEUTRAL;SIGNWRITING DREAMY EYEBROWS NEUTRAL UP
SIGNWRITING FOREHEAD NEUTRAL;SIGNWRITING FOREHEAD CONTACT;SIGNWRITING FOREHEAD WRINKLED
SIGNWRITING EYES OPEN;SIGNWRITING EYES SQUEEZED;SIGNWRITING EYES CLOSED
SIGNWRITING EYE BLINK SINGLE;SIGNWRITING EYE BLINK MULTIPLE;SIGNWRITING EYES HALF OPEN
SIGNWRITING EYES WIDE OPEN;SIGNWRITING EYES HALF CLOSED;SIGNWRITING EYES WIDENING MOVEMENT
SIGNWRITING EYE WINK;SIGNWRITING EYELASHES UP;SIGNWRITING EYELASHES DOWN
SIGNWRITING EYELASHES FLUTTERING;SIGNWRITING EYEGAZE-WALLPLANE STRAIGHT
SIGNWRITING EYEGAZE-WALLPLANE STRAIGHT DOUBLE;SIGNWRITING EYEGAZE-WALLPLANE STRAIGHT ALTERNATING
SIGNWRITING EYEGAZE-FLOORPLANE STRAIGHT;SIGNWRITING EYEGAZE-FLOORPLANE STRAIGHT DOUBLE
SIGNWRITING EYEGAZE-FLOORPLANE STRAIGHT ALTERNATING;SIGNWRITING EYEGAZE-WALLPLANE CURVED
SIGNWRITING EYEGAZE-FLOORPLANE CURVED;SIGNWRITING EYEGAZE-WALLPLANE CIRCLING
SIGNWRITING CHEEKS PUFFED;SIGNWRITING CHEEKS NEUTRAL;SIGNWRITING CHEEKS SUCKED
SIGNWRITING TENSE CHEEKS HIGH;SIGNWRITING TENSE CHEEKS MIDDLE;SIGNWRITING TENSE CHEEKS LOW
SIGNWRITING EARS;SIGNWRITING NOSE NEUTRAL;SIGNWRITING NOSE CONTACT;SIGNWRITING NOSE WRINKLES
SIGNWRITING NOSE WIGGLES;SIGNWRITING AIR BLOWING OUT;SIGNWRITING AIR SUCKING IN
SIGNWRITING AIR BLOW SMALL ROTATIONS;SIGNWRITING AIR SUCK SMALL ROTATIONS
SIGNWRITING BREATH INHALE;SIGNWRITING BREATH EXHALE;SIGNWRITING MOUTH CLOSED NEUTRAL
SIGNWRITING MOUTH CLOSED FORWARD;SIGNWRITING MOUTH CLOSED CONTACT;SIGNWRITING MOUTH SMILE
SIGNWRITING MOUTH SMILE WRINKLED;SIGNWRITING MOUTH SMILE OPEN;SIGNWRITING MOUTH FROWN
SIGNWRITING MOUTH FROWN WRINKLED;SIGNWRITING MOUTH FROWN OPEN;SIGNWRITING MOUTH OPEN CIRCLE
SIGNWRITING MOUTH OPEN FORWARD;SIGNWRITING MOUTH OPEN WRINKLED;SIGNWRITING MOUTH OPEN OVAL
SIGNWRITING MOUTH OPEN OVAL WRINKLED;SIGNWRITING MOUTH OPEN OVAL YAWN
SIGNWRITING MOUTH OPEN RECTANGLE;SIGNWRITING MOUTH OPEN RECTANGLE WRINKLED
SIGNWRITING MOUTH OPEN RECTANGLE YAWN;SIGNWRITING MOUTH KISS;SIGNWRITING MOUTH KISS FORWARD
SIGNWRITING MOUTH KISS WRINKLED;SIGNWRITING MOUTH TENSE;SIGNWRITING MOUTH TENSE FORWARD
SIGNWRITING MOUTH TENSE SUCKED;SIGNWRITING LIPS PRESSED TOGETHER;SIGNWRITING LIP LOWER OVER UPPER
SIGNWRITING LIP UPPER OVER LOWER;SIGNWRITING MOUTH CORNERS;SIGNWRITING MOUTH WRINKLES SINGLE
SIGNWRITING MOUTH WRINKLES DOUBLE;SIGNWRITING TONGUE STICKING OUT FAR
SIGNWRITING TONGUE LICKING LIPS;SIGNWRITING TONGUE TIP BETWEEN LIPS
SIGNWRITING TONGUE TIP TOUCHING INSIDE MOUTH;SIGNWRITING TONGUE INSIDE MOUTH RELAXED
SIGNWRITING TONGUE MOVES AGAINST CHEEK;SIGNWRITING TONGUE CENTRE STICKING OUT
SIGNWRITING TONGUE CENTRE INSIDE MOUTH;SIGNWRITING TEETH;SIGNWRITING TEETH MOVEMENT
SIGNWRITING TEETH ON TONGUE;SIGNWRITING TEETH ON TONGUE MOVEMENT;SIGNWRITING TEETH ON LIPS
SIGNWRITING TEETH ON LIPS MOVEMENT;SIGNWRITING TEETH BITE LIPS;SIGNWRITING MOVEMENT-WALLPLANE JAW
SIGNWRITING MOVEMENT-FLOORPLANE JAW;SIGNWRITING NECK;SIGNWRITING HAIR;SIGNWRITING EXCITEMENT
SIGNWRITING SHOULDER HIP SPINE;SIGNWRITING SHOULDER HIP POSITIONS
SIGNWRITING WALLPLANE SHOULDER HIP MOVE;SIGNWRITING FLOORPLANE SHOULDER HIP MOVE
SIGNWRITING SHOULDER TILTING FROM WAIST;SIGNWRITING TORSO-WALLPLANE STRAIGHT STRETCH
SIGNWRITING TORSO-WALLPLANE CURVED BEND;SIGNWRITING TORSO-FLOORPLANE TWISTING
SIGNWRITING UPPER BODY TILTING FROM HIP JOINTS;SIGNWRITING LIMB COMBINATION
SIGNWRITING LIMB LENGTH-1;SIGNWRITING LIMB LENGTH-2;SIGNWRITING LIMB LENGTH-3
SIGNWRITING LIMB LENGTH-4;SIGNWRITING LIMB LENGTH-5;SIGNWRITING LIMB LENGTH-6
SIGNWRITING LIMB LENGTH-7;SIGNWRITING FINGER;SIGNWRITING LOCATION-WALLPLANE SPACE
SIGNWRITING LOCATION-FLOORPLANE SPACE;SIGNWRITING LOCATION HEIGHT;SIGNWRITING LOCATION WIDTH
SIGNWRITING LOCATION DEPTH;SIGNWRITING LOCATION HEAD NECK;SIGNWRITING LOCATION TORSO
SIGNWRITING LOCATION LIMBS DIGITS;SIGNWRITING COMMA;SIGNWRITING FULL STOP;SIGNWRITING SEMICOLON
SIGNWRITING COLON;SIGNWRITING PARENTHESIS"),
  (0x1da9b, "SIGNWRITING FILL MODIFIER-2;SIGNWRITING FILL MODIFIER-3;SIGNWRITING FILL MODIFIER-4
SIGNWRITING FILL MODIFIER-5;SIGNWRITING FILL MODIFIER-6"),
  (0x1daa1, "SIGNWRITING ROTATION MODIFIER-2;SIGNWRITING ROTATION MODIFIER-3
SIGNWRITING ROTATION MODIFIER-4;SIGNWRITING ROTATION MODIFIER-5;SIGNWRITING ROTATION MODIFIER-6
SIGNWRITING ROTATION MODIFIER-7;SIGNWRITING ROTATION MODIFIER-8;SIGNWRITING ROTATION MODIFIER-9
SIGNWRITING ROTATION MODIFIER-10;SIGNWRITING ROTATION MODIFIER-11
SIGNWRITING ROTATION MODIFIER-12;SIGNWRITING ROTATION MODIFIER-13
SIGNWRITING ROTATION MODIFIER-14;SIGNWRITING ROTATION MODIFIER-15
SIGNWRITING ROTATION MODIFIER-16"),
  (0x1df00, "LATIN SMALL LETTER FENG DIGRAPH WITH TRILL;LATIN SMALL LETTER REVERSED SCRIPT G
LATIN LETTER SMALL CAPITAL TURNED G;LATIN SMALL LETTER REVERSED K
LATIN LETTER SMALL CAPITAL L WITH BELT;LATIN SMALL LETTER LEZH WITH RETROFLEX HOOK
LATIN SMALL LETTER TURNED Y WITH BELT;LATIN SMALL LETTER REVERSED ENG
LATIN SMALL LETTER TURNED R WITH LONG LEG AND RETROFLEX HOOK
LATIN SMALL LETTER T WITH HOOK AND RETROFLEX HOOK
LATIN LETTER RETROFLEX CLICK WITH RETROFLEX HOOK;LATIN SMALL LETTER ESH WITH DOUBLE BAR
LATIN SMALL LETTER ESH WITH DOUBLE BAR AND CURL;LATIN SMALL LETTER TURNED T WITH CURL
LATIN LETTER INVERTED GLOTTAL STOP WITH CURL;LATIN LETTER STRETCHED C WITH CURL
LATIN LETTER SMALL CAPITAL TURNED K;LATIN SMALL LETTER L WITH FISHHOOK
LATIN SMALL LETTER DEZH DIGRAPH WITH PALATAL HOOK;LATIN SMALL LETTER L WITH BELT AND PALATAL HOOK
LATIN SMALL LETTER ENG WITH PALATAL HOOK;LATIN SMALL LETTER TURNED R WITH PALATAL HOOK
LATIN SMALL LETTER R WITH FISHHOOK AND PALATAL HOOK
LATIN SMALL LETTER TESH DIGRAPH WITH PALATAL HOOK;LATIN SMALL LETTER EZH WITH PALATAL HOOK
LATIN SMALL LETTER DEZH DIGRAPH WITH RETROFLEX HOOK
LATIN SMALL LETTER I WITH STROKE AND RETROFLEX HOOK;LATIN SMALL LETTER O WITH RETROFLEX HOOK
LATIN SMALL LETTER TESH DIGRAPH WITH RETROFLEX HOOK;LATIN SMALL LETTER C WITH RETROFLEX HOOK
LATIN SMALL LETTER S WITH CURL"),
  (0x1e000, "COMBINING GLAGOLITIC LETTER AZU;COMBINING GLAGOLITIC LETTER BUKY
COMBINING GLAGOLITIC LETTER VEDE;COMBINING GLAGOLITIC LETTER GLAGOLI
COMBINING GLAGOLITIC LETTER DOBRO;COMBINING GLAGOLITIC LETTER YESTU
COMBINING GLAGOLITIC LETTER ZHIVETE"),
  (0x1e008, "COMBINING GLAGOLITIC LETTER ZEMLJA;COMBINING GLAGOLITIC LETTER IZHE
COMBINING GLAGOLITIC LETTER INITIAL IZHE;COMBINING GLAGOLITIC LETTER I
COMBINING GLAGOLITIC LETTER DJERVI;COMBINING GLAGOLITIC LETTER KAKO
COMBINING GLAGOLITIC LETTER LJUDIJE;COMBINING GLAGOLITIC LETTER MYSLITE
COMBINING GLAGOLITIC LETTER NASHI;COMBINING GLAGOLITIC LETTER ONU
COMBINING GLAGOLITIC LETTER POKOJI;COMBINING GLAGOLITIC LETTER RITSI
COMBINING GLAGOLITIC LETTER SLOVO;COMBINING GLAGOLITIC LETTER TVRIDO
COMBINING GLAGOLITIC LETTER UKU;COMBINING GLAGOLITIC LETTER FRITU
COMBINING GLAGOLITIC LETTER HERU"),
  (0x1e01b, "COMBINING GLAGOLITIC LETTER SHTA;COMBINING GLAGOLITIC LETTER TSI
COMBINING GLAGOLITIC LETTER CHRIVI;COMBINING GLAGOLITIC LETTER SHA
COMBINING GLAGOLITIC LETTER YERU;COMBINING GLAGOLITIC LETTER YERI
COMBINING GLAGOLITIC LETTER YATI"),
  (0x1e023, "COMBINING GLAGOLITIC LETTER YU;COMBINING GLAGOLITIC LETTER SMALL YUS"),
  (0x1e026, "COMBINING GLAGOLITIC LETTER YO;COMBINING GLAGOLITIC LETTER IOTATED SMALL YUS
COMBINING GLAGOLITIC LETTER BIG YUS;COMBINING GLAGOLITIC LETTER IOTATED BIG YUS
COMBINING GLAGOLITIC LETTER FITA"),
  (0x1e100, "NYIAKENG PUACHUE HMONG LETTER MA;NYIAKENG PUACHUE HMONG LETTER TSA
NYIAKENG PUACHUE HMONG LETTER NTA;NYIAKENG PUACHUE HMONG LETTER TA
NYIAKENG PUACHUE HMONG LETTER HA;NYIAKENG PUACHUE HMONG LETTER NA
NYIAKENG PUACHUE HMONG LETTER XA;NYIAKENG PUACHUE HMONG LETTER NKA
NYIAKENG PUACHUE HMONG LETTER CA;NYIAKENG PUACHUE HMONG LETTER LA
NYIAKENG PUACHUE HMONG LETTER SA;NYIAKENG PUACHUE HMONG LETTER ZA
NYIAKENG PUACHUE HMONG LETTER NCA;NYIAKENG PUACHUE HMONG LETTER NTSA
NYIAKENG PUACHUE HMONG LETTER KA;NYIAKENG PUACHUE HMONG LETTER DA
NYIAKENG PUACHUE HMONG LETTER NYA;NYIAKENG PUACHUE HMONG LETTER NRA
NYIAKENG PUACHUE HMONG LETTER VA;NYIAKENG PUACHUE HMONG LETTER NTXA
NYIAKENG PUACHUE HMONG LETTER TXA;NYIAKENG PUACHUE HMONG LETTER FA
NYIAKENG PUACHUE HMONG LETTER RA;NYIAKENG PUACHUE HMONG LETTER QA
NYIAKENG PUACHUE HMONG LETTER YA;NYIAKENG PUACHUE HMONG LETTER NQA
NYIAKENG PUACHUE HMONG LETTER PA;NYIAKENG PUACHUE HMONG LETTER XYA
NYIAKENG PUACHUE HMONG LETTER NPA;NYIAKENG PUACHUE HMONG LETTER DLA
NYIAKENG PUACHUE HMONG LETTER NPLA;NYIAKENG PUACHUE HMONG LETTER HAH
NYIAKENG PUACHUE HMONG LETTER MLA;NYIAKENG PUACHUE HMONG LETTER PLA
NYIAKENG PUACHUE HMONG LETTER GA;NYIAKENG PUACHUE HMONG LETTER RRA
NYIAKENG PUACHUE HMONG LETTER A;NYIAKENG PUACHUE HMONG LETTER AA;NYIAKENG PUACHUE HMONG LETTER I
NYIAKENG PUACHUE HMONG LETTER U;NYIAKENG PUACHUE HMONG LETTER O;NYIAKENG PUACHUE HMONG LETTER OO
NYIAKENG PUACHUE HMONG LETTER E;NYIAKENG PUACHUE HMONG LETTER EE;NYIAKENG PUACHUE HMONG LETTER W"),
  (0x1e130, "NYIAKENG PUACHUE HMONG TONE-B;NYIAKENG PUACHUE HMONG TONE-M
NYIAKENG PUACHUE HMONG TONE-J;NYIAKENG PUACHUE HMONG TONE-V;NYIAKENG PUACHUE HMONG TONE-S
NYIAKENG PUACHUE HMONG TONE-G;NYIAKENG PUACHUE HMONG TONE-D
NYIAKENG PUACHUE HMONG SIGN FOR PERSON;NYIAKENG PUACHUE HMONG SIGN FOR THING
NYIAKENG PUACHUE HMONG SIGN FOR LOCATION;NYIAKENG PUACHUE HMONG SIGN FOR ANIMAL
NYIAKENG PUACHUE HMONG SIGN FOR INVERTEBRATE;NYIAKENG PUACHUE HMONG SIGN XW XW
NYIAKENG PUACHUE HMONG SYLLABLE LENGTHENER"),
  (0x1e140, "NYIAKENG PUACHUE HMONG DIGIT ZERO;NYIAKENG PUACHUE HMONG DIGIT ONE
NYIAKENG PUACHUE HMONG DIGIT TWO;NYIAKENG PUACHUE HMONG DIGIT THREE
NYIAKENG PUACHUE HMONG DIGIT FOUR;NYIAKENG PUACHUE HMONG DIGIT FIVE
NYIAKENG PUACHUE HMONG DIGIT SIX;NYIAKENG PUACHUE HMONG DIGIT SEVEN
NYIAKENG PUACHUE HMONG DIGIT EIGHT;NYIAKENG PUACHUE HMONG DIGIT NINE"),
  (0x1e14e, "NYIAKENG PUACHUE HMONG LOGOGRAM NYAJ;NYIAKENG PUACHUE HMONG CIRCLED CA"),
  (0x1e290, "TOTO LETTER PA;TOTO LETTER BA;TOTO LETTER TA;TOTO LETTER DA;TOTO LETTER KA
TOTO LETTER GA;TOTO LETTER MA;TOTO LETTER NA;TOTO LETTER NGA;TOTO LETTER SA;TOTO LETTER CHA
TOTO LETTER YA;TOTO LETTER WA;TOTO LETTER JA;TOTO LETTER HA;TOTO LETTER RA;TOTO LETTER LA
TOTO LETTER I;TOTO LETTER BREATHY I;TOTO LETTER IU;TOTO LETTER BREATHY IU;TOTO LETTER U
TOTO LETTER E;TOTO LETTER BREATHY E;TOTO LETTER EO;TOTO LETTER BREATHY EO;TOTO LETTER O
TOTO LETTER AE;TOTO LETTER BREATHY AE;TOTO LETTER A;TOTO SIGN RISING TONE"),
  (0x1e2c0, "WANCHO LETTER AA;WANCHO LETTER A;WANCHO LETTER BA;WANCHO LETTER CA;WANCHO LETTER DA
WANCHO LETTER GA;WANCHO LETTER YA;WANCHO LETTER PHA;WANCHO LETTER LA;WANCHO LETTER NA
WANCHO LETTER PA;WANCHO LETTER TA;WANCHO LETTER THA;WANCHO LETTER FA;WANCHO LETTER SA
WANCHO LETTER SHA;WANCHO LETTER JA;WANCHO LETTER ZA;WANCHO LETTER WA;WANCHO LETTER VA
WANCHO LETTER KA;WANCHO LETTER O;WANCHO LETTER AU;WANCHO LETTER RA;WANCHO LETTER MA
WANCHO LETTER KHA;WANCHO LETTER HA;WANCHO LETTER E;WANCHO LETTER I;WANCHO LETTER NGA
WANCHO LETTER U;WANCHO LETTER LLHA;WANCHO LETTER TSA;WANCHO LETTER TRA;WANCHO LETTER ONG
WANCHO LETTER AANG;WANCHO LETTER ANG;WANCHO LETTER ING;WANCHO LETTER ON;WANCHO LETTER EN
WANCHO LETTER AAN;WANCHO LETTER NYA;WANCHO LETTER UEN;WANCHO LETTER YIH;WANCHO TONE TUP
WANCHO TONE TUPNI;WANCHO TONE KOI;WANCHO TONE KOINI;WANCHO DIGIT ZERO;WANCHO DIGIT ONE
WANCHO DIGIT TWO;WANCHO DIGIT THREE;WANCHO DIGIT FOUR;WANCHO DIGIT FIVE;WANCHO DIGIT SIX
WANCHO DIGIT SEVEN;WANCHO DIGIT EIGHT;WANCHO DIGIT NINE"),
  (0x1e2ff, "WANCHO NGUN SIGN"),
  (0x1e7e0, "ETHIOPIC SYLLABLE HHYA;ETHIOPIC SYLLABLE HHYU;ETHIOPIC SYLLABLE HHYI
ETHIOPIC SYLLABLE HHYAA;ETHIOPIC SYLLABLE HHYEE;ETHIOPIC SYLLABLE HHYE;ETHIOPIC SYLLABLE HHYO"),
  (0x1e7e8, "ETHIOPIC SYLLABLE GURAGE HHWA;ETHIOPIC SYLLABLE HHWI;ETHIOPIC SYLLABLE HHWEE
ETHIOPIC SYLLABLE HHWE"),
  (0x1e7ed, "ETHIOPIC SYLLABLE GURAGE MWI;ETHIOPIC SYLLABLE GURAGE MWEE"),
  (0x1e7f0, "ETHIOPIC SYLLABLE GURAGE QWI;ETHIOPIC SYLLABLE GURAGE QWEE
ETHIOPIC SYLLABLE GURAGE QWE;ETHIOPIC SYLLABLE GURAGE BWI;ETHIOPIC SYLLABLE GURAGE BWEE
ETHIOPIC SYLLABLE GURAGE KWI;ETHIOPIC SYLLABLE GURAGE KWEE;ETHIOPIC SYLLABLE GURAGE KWE
ETHIOPIC SYLLABLE GURAGE GWI;ETHIOPIC SYLLABLE GURAGE GWEE;ETHIOPIC SYLLABLE GURAGE GWE
ETHIOPIC SYLLABLE GURAGE FWI;ETHIOPIC SYLLABLE GURAGE FWEE;ETHIOPIC SYLLABLE GURAGE PWI
ETHIOPIC SYLLABLE GURAGE PWEE"),
  (0x1e800, "MENDE KIKAKUI SYLLABLE M001 KI;MENDE KIKAKUI SYLLABLE M002 KA
MENDE KIKAKUI SYLLABLE M003 KU;MENDE KIKAKUI SYLLABLE M065 KEE;MENDE KIKAKUI SYLLABLE M095 KE
MENDE KIKAKUI SYLLABLE M076 KOO;MENDE KIKAKUI SYLLABLE M048 KO;MENDE KIKAKUI SYLLABLE M179 KUA
MENDE KIKAKUI SYLLABLE M004 WI;MENDE KIKAKUI SYLLABLE M005 WA;MENDE KIKAKUI SYLLABLE M006 WU
MENDE KIKAKUI SYLLABLE M126 WEE;MENDE KIKAKUI SYLLABLE M118 WE;MENDE KIKAKUI SYLLABLE M114 WOO
MENDE KIKAKUI SYLLABLE M045 WO;MENDE KIKAKUI SYLLABLE M194 WUI;MENDE KIKAKUI SYLLABLE M143 WEI
MENDE KIKAKUI SYLLABLE M061 WVI;MENDE KIKAKUI SYLLABLE M049 WVA;MENDE KIKAKUI SYLLABLE M139 WVE
MENDE KIKAKUI SYLLABLE M007 MIN;MENDE KIKAKUI SYLLABLE M008 MAN;MENDE KIKAKUI SYLLABLE M009 MUN
MENDE KIKAKUI SYLLABLE M059 MEN;MENDE KIKAKUI SYLLABLE M094 MON;MENDE KIKAKUI SYLLABLE M154 MUAN
MENDE KIKAKUI SYLLABLE M189 MUEN;MENDE KIKAKUI SYLLABLE M010 BI;MENDE KIKAKUI SYLLABLE M011 BA
MENDE KIKAKUI SYLLABLE M012 BU;MENDE KIKAKUI SYLLABLE M150 BEE;MENDE KIKAKUI SYLLABLE M097 BE
MENDE KIKAKUI SYLLABLE M103 BOO;MENDE KIKAKUI SYLLABLE M138 BO;MENDE KIKAKUI SYLLABLE M013 I
MENDE KIKAKUI SYLLABLE M014 A;MENDE KIKAKUI SYLLABLE M015 U;MENDE KIKAKUI SYLLABLE M163 EE
MENDE KIKAKUI SYLLABLE M100 E;MENDE KIKAKUI SYLLABLE M165 OO;MENDE KIKAKUI SYLLABLE M147 O
MENDE KIKAKUI SYLLABLE M137 EI;MENDE KIKAKUI SYLLABLE M131 IN;MENDE KIKAKUI SYLLABLE M135 IN
MENDE KIKAKUI SYLLABLE M195 AN;MENDE KIKAKUI SYLLABLE M178 EN;MENDE KIKAKUI SYLLABLE M019 SI
MENDE KIKAKUI SYLLABLE M020 SA;MENDE KIKAKUI SYLLABLE M021 SU;MENDE KIKAKUI SYLLABLE M162 SEE
MENDE KIKAKUI SYLLABLE M116 SE;MENDE KIKAKUI SYLLABLE M136 SOO;MENDE KIKAKUI SYLLABLE M079 SO
MENDE KIKAKUI SYLLABLE M196 SIA;MENDE KIKAKUI SYLLABLE M025 LI;MENDE KIKAKUI SYLLABLE M026 LA
MENDE KIKAKUI SYLLABLE M027 LU;MENDE KIKAKUI SYLLABLE M084 LEE;MENDE KIKAKUI SYLLABLE M073 LE
MENDE KIKAKUI SYLLABLE M054 LOO;MENDE KIKAKUI SYLLABLE M153 LO
MENDE KIKAKUI SYLLABLE M110 LONG LE;MENDE KIKAKUI SYLLABLE M016 DI;MENDE KIKAKUI SYLLABLE M017 DA
MENDE KIKAKUI SYLLABLE M018 DU;MENDE KIKAKUI SYLLABLE M089 DEE;MENDE KIKAKUI SYLLABLE M180 DOO
MENDE KIKAKUI SYLLABLE M181 DO;MENDE KIKAKUI SYLLABLE M022 TI;MENDE KIKAKUI SYLLABLE M023 TA
MENDE KIKAKUI SYLLABLE M024 TU;MENDE KIKAKUI SYLLABLE M091 TEE;MENDE KIKAKUI SYLLABLE M055 TE
MENDE KIKAKUI SYLLABLE M104 TOO;MENDE KIKAKUI SYLLABLE M069 TO;MENDE KIKAKUI SYLLABLE M028 JI
MENDE KIKAKUI SYLLABLE M029 JA;MENDE KIKAKUI SYLLABLE M030 JU;MENDE KIKAKUI SYLLABLE M157 JEE
MENDE KIKAKUI SYLLABLE M113 JE;MENDE KIKAKUI SYLLABLE M160 JOO;MENDE KIKAKUI SYLLABLE M063 JO
MENDE KIKAKUI SYLLABLE M175 LONG JO;MENDE KIKAKUI SYLLABLE M031 YI;MENDE KIKAKUI SYLLABLE M032 YA
MENDE KIKAKUI SYLLABLE M033 YU;MENDE KIKAKUI SYLLABLE M109 YEE;MENDE KIKAKUI SYLLABLE M080 YE
MENDE KIKAKUI SYLLABLE M141 YOO;MENDE KIKAKUI SYLLABLE M121 YO;MENDE KIKAKUI SYLLABLE M034 FI
MENDE KIKAKUI SYLLABLE M035 FA;MENDE KIKAKUI SYLLABLE M036 FU;MENDE KIKAKUI SYLLABLE M078 FEE
MENDE KIKAKUI SYLLABLE M075 FE;MENDE KIKAKUI SYLLABLE M133 FOO;MENDE KIKAKUI SYLLABLE M088 FO
MENDE KIKAKUI SYLLABLE M197 FUA;MENDE KIKAKUI SYLLABLE M101 FAN;MENDE KIKAKUI SYLLABLE M037 NIN
MENDE KIKAKUI SYLLABLE M038 NAN;MENDE KIKAKUI SYLLABLE M039 NUN;MENDE KIKAKUI SYLLABLE M117 NEN
MENDE KIKAKUI SYLLABLE M169 NON;MENDE KIKAKUI SYLLABLE M176 HI;MENDE KIKAKUI SYLLABLE M041 HA
MENDE KIKAKUI SYLLABLE M186 HU;MENDE KIKAKUI SYLLABLE M040 HEE;MENDE KIKAKUI SYLLABLE M096 HE
MENDE KIKAKUI SYLLABLE M042 HOO;MENDE KIKAKUI SYLLABLE M140 HO;MENDE KIKAKUI SYLLABLE M083 HEEI
MENDE KIKAKUI SYLLABLE M128 HOOU;MENDE KIKAKUI SYLLABLE M053 HIN;MENDE KIKAKUI SYLLABLE M130 HAN
MENDE KIKAKUI SYLLABLE M087 HUN;MENDE KIKAKUI SYLLABLE M052 HEN;MENDE KIKAKUI SYLLABLE M193 HON
MENDE KIKAKUI SYLLABLE M046 HUAN;MENDE KIKAKUI SYLLABLE M090 NGGI
MENDE KIKAKUI SYLLABLE M043 NGGA;MENDE KIKAKUI SYLLABLE M082 NGGU
MENDE KIKAKUI SYLLABLE M115 NGGEE;MENDE KIKAKUI SYLLABLE M146 NGGE
MENDE KIKAKUI SYLLABLE M156 NGGOO;MENDE KIKAKUI SYLLABLE M120 NGGO
MENDE KIKAKUI SYLLABLE M159 NGGAA;MENDE KIKAKUI SYLLABLE M127 NGGUA
MENDE KIKAKUI SYLLABLE M086 LONG NGGE;MENDE KIKAKUI SYLLABLE M106 LONG NGGOO
MENDE KIKAKUI SYLLABLE M183 LONG NGGO;MENDE KIKAKUI SYLLABLE M155 GI
MENDE KIKAKUI SYLLABLE M111 GA;MENDE KIKAKUI SYLLABLE M168 GU;MENDE KIKAKUI SYLLABLE M190 GEE
MENDE KIKAKUI SYLLABLE M166 GUEI;MENDE KIKAKUI SYLLABLE M167 GUAN
MENDE KIKAKUI SYLLABLE M184 NGEN;MENDE KIKAKUI SYLLABLE M057 NGON
MENDE KIKAKUI SYLLABLE M177 NGUAN;MENDE KIKAKUI SYLLABLE M068 PI;MENDE KIKAKUI SYLLABLE M099 PA
MENDE KIKAKUI SYLLABLE M050 PU;MENDE KIKAKUI SYLLABLE M081 PEE;MENDE KIKAKUI SYLLABLE M051 PE
MENDE KIKAKUI SYLLABLE M102 POO;MENDE KIKAKUI SYLLABLE M066 PO;MENDE KIKAKUI SYLLABLE M145 MBI
MENDE KIKAKUI SYLLABLE M062 MBA;MENDE KIKAKUI SYLLABLE M122 MBU;MENDE KIKAKUI SYLLABLE M047 MBEE
MENDE KIKAKUI SYLLABLE M188 MBEE;MENDE KIKAKUI SYLLABLE M072 MBE;MENDE KIKAKUI SYLLABLE M172 MBOO
MENDE KIKAKUI SYLLABLE M174 MBO;MENDE KIKAKUI SYLLABLE M187 MBUU
MENDE KIKAKUI SYLLABLE M161 LONG MBE;MENDE KIKAKUI SYLLABLE M105 LONG MBOO
MENDE KIKAKUI SYLLABLE M142 LONG MBO;MENDE KIKAKUI SYLLABLE M132 KPI
MENDE KIKAKUI SYLLABLE M092 KPA;MENDE KIKAKUI SYLLABLE M074 KPU;MENDE KIKAKUI SYLLABLE M044 KPEE
MENDE KIKAKUI SYLLABLE M108 KPE;MENDE KIKAKUI SYLLABLE M112 KPOO;MENDE KIKAKUI SYLLABLE M158 KPO
MENDE KIKAKUI SYLLABLE M124 GBI;MENDE KIKAKUI SYLLABLE M056 GBA;MENDE KIKAKUI SYLLABLE M148 GBU
MENDE KIKAKUI SYLLABLE M093 GBEE;MENDE KIKAKUI SYLLABLE M107 GBE;MENDE KIKAKUI SYLLABLE M071 GBOO
MENDE KIKAKUI SYLLABLE M070 GBO;MENDE KIKAKUI SYLLABLE M171 RA;MENDE KIKAKUI SYLLABLE M123 NDI
MENDE KIKAKUI SYLLABLE M129 NDA;MENDE KIKAKUI SYLLABLE M125 NDU;MENDE KIKAKUI SYLLABLE M191 NDEE
MENDE KIKAKUI SYLLABLE M119 NDE;MENDE KIKAKUI SYLLABLE M067 NDOO;MENDE KIKAKUI SYLLABLE M064 NDO
MENDE KIKAKUI SYLLABLE M152 NJA;MENDE KIKAKUI SYLLABLE M192 NJU;MENDE KIKAKUI SYLLABLE M149 NJEE
MENDE KIKAKUI SYLLABLE M134 NJOO;MENDE KIKAKUI SYLLABLE M182 VI;MENDE KIKAKUI SYLLABLE M185 VA
MENDE KIKAKUI SYLLABLE M151 VU;MENDE KIKAKUI SYLLABLE M173 VEE;MENDE KIKAKUI SYLLABLE M085 VE
MENDE KIKAKUI SYLLABLE M144 VOO;MENDE KIKAKUI SYLLABLE M077 VO;MENDE KIKAKUI SYLLABLE M164 NYIN
MENDE KIKAKUI SYLLABLE M058 NYAN;MENDE KIKAKUI SYLLABLE M170 NYUN
MENDE KIKAKUI SYLLABLE M098 NYEN;MENDE KIKAKUI SYLLABLE M060 NYON"),
  (0x1e8c7, "MENDE KIKAKUI DIGIT ONE;MENDE KIKAKUI DIGIT TWO;MENDE KIKAKUI DIGIT THREE
MENDE KIKAKUI DIGIT FOUR;MENDE KIKAKUI DIGIT FIVE;MENDE KIKAKUI DIGIT SIX
MENDE KIKAKUI DIGIT SEVEN;MENDE KIKAKUI DIGIT EIGHT;MENDE KIKAKUI DIGIT NINE
MENDE KIKAKUI COMBINING NUMBER TEENS;MENDE KIKAKUI COMBINING NUMBER TENS
MENDE KIKAKUI COMBINING NUMBER HUNDREDS;MENDE KIKAKUI COMBINING NUMBER THOUSANDS
MENDE KIKAKUI COMBINING NUMBER TEN THOUSANDS;MENDE KIKAKUI COMBINING NUMBER HUNDRED THOUSANDS
MENDE KIKAKUI COMBINING NUMBER MILLIONS"),
  (0x1e900, "ADLAM CAPITAL LETTER ALIF;ADLAM CAPITAL LETTER DAALI;ADLAM CAPITAL LETTER LAAM
ADLAM CAPITAL LETTER MIIM;ADLAM CAPITAL LETTER BA;ADLAM CAPITAL LETTER SINNYIIYHE
ADLAM CAPITAL LETTER PE;ADLAM CAPITAL LETTER BHE;ADLAM CAPITAL LETTER RA;ADLAM CAPITAL LETTER E
ADLAM CAPITAL LETTER FA;ADLAM CAPITAL LETTER I;ADLAM CAPITAL LETTER O;ADLAM CAPITAL LETTER DHA
ADLAM CAPITAL LETTER YHE;ADLAM CAPITAL LETTER WAW;ADLAM CAPITAL LETTER NUN
ADLAM CAPITAL LETTER KAF;ADLAM CAPITAL LETTER YA;ADLAM CAPITAL LETTER U;ADLAM CAPITAL LETTER JIIM
ADLAM CAPITAL LETTER CHI;ADLAM CAPITAL LETTER HA;ADLAM CAPITAL LETTER QAAF
ADLAM CAPITAL LETTER GA;ADLAM CAPITAL LETTER NYA;ADLAM CAPITAL LETTER TU;ADLAM CAPITAL LETTER NHA
ADLAM CAPITAL LETTER VA;ADLAM CAPITAL LETTER KHA;ADLAM CAPITAL LETTER GBE
ADLAM CAPITAL LETTER ZAL;ADLAM CAPITAL LETTER KPO;ADLAM CAPITAL LETTER SHA
ADLAM SMALL LETTER ALIF;ADLAM SMALL LETTER DAALI;ADLAM SMALL LETTER LAAM;ADLAM SMALL LETTER MIIM
ADLAM SMALL LETTER BA;ADLAM SMALL LETTER SINNYIIYHE;ADLAM SMALL LETTER PE;ADLAM SMALL LETTER BHE
ADLAM SMALL LETTER RA;ADLAM SMALL LETTER E;ADLAM SMALL LETTER FA;ADLAM SMALL LETTER I
ADLAM SMALL LETTER O;ADLAM SMALL LETTER DHA;ADLAM SMALL LETTER YHE;ADLAM SMALL LETTER WAW
ADLAM SMALL LETTER NUN;ADLAM SMALL LETTER KAF;ADLAM SMALL LETTER YA;ADLAM SMALL LETTER U
ADLAM SMALL LETTER JIIM;ADLAM SMALL LETTER CHI;ADLAM SMALL LETTER HA;ADLAM SMALL LETTER QAAF
ADLAM SMALL LETTER GA;ADLAM SMALL LETTER NYA;ADLAM SMALL LETTER TU;ADLAM SMALL LETTER NHA
ADLAM SMALL LETTER VA;ADLAM SMALL LETTER KHA;ADLAM SMALL LETTER GBE;ADLAM SMALL LETTER ZAL
ADLAM SMALL LETTER KPO;ADLAM SMALL LETTER SHA;ADLAM ALIF LENGTHENER;ADLAM VOWEL LENGTHENER
ADLAM GEMINATION MARK;ADLAM HAMZA;ADLAM CONSONANT MODIFIER;ADLAM GEMINATE CONSONANT MODIFIER
ADLAM NUKTA;ADLAM NASALIZATION MARK"),
  (0x1e950, "ADLAM DIGIT ZERO;ADLAM DIGIT ONE;ADLAM DIGIT TWO;ADLAM DIGIT THREE;ADLAM DIGIT FOUR
ADLAM DIGIT FIVE;ADLAM DIGIT SIX;ADLAM DIGIT SEVEN;ADLAM DIGIT EIGHT;ADLAM DIGIT NINE"),
  (0x1e95e, "ADLAM INITIAL EXCLAMATION MARK;ADLAM INITIAL QUESTION MARK"),
  (0x1ec71, "INDIC SIYAQ NUMBER ONE;INDIC SIYAQ NUMBER TWO;INDIC SIYAQ NUMBER THREE
INDIC SIYAQ NUMBER FOUR;INDIC SIYAQ NUMBER FIVE;INDIC SIYAQ NUMBER SIX;INDIC SIYAQ NUMBER SEVEN
INDIC SIYAQ NUMBER EIGHT;INDIC SIYAQ NUMBER NINE;INDIC SIYAQ NUMBER TEN;INDIC SIYAQ NUMBER TWENTY
INDIC SIYAQ NUMBER THIRTY;INDIC SIYAQ NUMBER FORTY;INDIC SIYAQ NUMBER FIFTY
INDIC SIYAQ NUMBER SIXTY;INDIC SIYAQ NUMBER SEVENTY;INDIC SIYAQ NUMBER EIGHTY
INDIC SIYAQ NUMBER NINETY;INDIC SIYAQ NUMBER ONE HUNDRED;INDIC SIYAQ NUMBER TWO HUNDRED
INDIC SIYAQ NUMBER THREE HUNDRED;INDIC SIYAQ NUMBER FOUR HUNDRED;INDIC SIYAQ NUMBER FIVE HUNDRED
INDIC SIYAQ NUMBER SIX HUNDRED;INDIC SIYAQ NUMBER SEVEN HUNDRED;INDIC SIYAQ NUMBER EIGHT HUNDRED
INDIC SIYAQ NUMBER NINE HUNDRED;INDIC SIYAQ NUMBER ONE THOUSAND;INDIC SIYAQ NUMBER TWO THOUSAND
INDIC SIYAQ NUMBER THREE THOUSAND;INDIC SIYAQ NUMBER FOUR THOUSAND
INDIC SIYAQ NUMBER FIVE THOUSAND;INDIC SIYAQ NUMBER SIX THOUSAND
INDIC SIYAQ NUMBER SEVEN THOUSAND;INDIC SIYAQ NUMBER EIGHT THOUSAND
INDIC SIYAQ NUMBER NINE THOUSAND;INDIC SIYAQ NUMBER TEN THOUSAND
INDIC SIYAQ NUMBER TWENTY THOUSAND;INDIC SIYAQ NUMBER THIRTY THOUSAND
INDIC SIYAQ NUMBER FORTY THOUSAND;INDIC SIYAQ NUMBER FIFTY THOUSAND
INDIC SIYAQ NUMBER SIXTY THOUSAND;INDIC SIYAQ NUMBER SEVENTY THOUSAND
INDIC SIYAQ NUMBER EIGHTY THOUSAND;INDIC SIYAQ NUMBER NINETY THOUSAND;INDIC SIYAQ NUMBER LAKH
INDIC SIYAQ NUMBER LAKHAN;INDIC SIYAQ LAKH MARK;INDIC SIYAQ NUMBER KAROR
INDIC SIYAQ NUMBER KARORAN;INDIC SIYAQ NUMBER PREFIXED ONE;INDIC SIYAQ NUMBER PREFIXED TWO
INDIC SIYAQ NUMBER PREFIXED THREE;INDIC SIYAQ NUMBER PREFIXED FOUR
INDIC SIYAQ NUMBER PREFIXED FIVE;INDIC SIYAQ NUMBER PREFIXED SIX
INDIC SIYAQ NUMBER PREFIXED SEVEN;INDIC SIYAQ NUMBER PREFIXED EIGHT
INDIC SIYAQ NUMBER PREFIXED NINE;INDIC SIYAQ PLACEHOLDER;INDIC SIYAQ FRACTION ONE QUARTER
INDIC SIYAQ FRACTION ONE HALF;INDIC SIYAQ FRACTION THREE QUARTERS;INDIC SIYAQ RUPEE MARK
INDIC SIYAQ NUMBER ALTERNATE ONE;INDIC SIYAQ NUMBER ALTERNATE TWO
INDIC SIYAQ NUMBER ALTERNATE TEN THOUSAND;INDIC SIYAQ ALTERNATE LAKH MARK"),
  (0x1ed01, "OTTOMAN SIYAQ NUMBER ONE;OTTOMAN SIYAQ NUMBER TWO;OTTOMAN SIYAQ NUMBER THREE
OTTOMAN SIYAQ NUMBER FOUR;OTTOMAN SIYAQ NUMBER FIVE;OTTOMAN SIYAQ NUMBER SIX
OTTOMAN SIYAQ NUMBER SEVEN;OTTOMAN SIYAQ NUMBER EIGHT;OTTOMAN SIYAQ NUMBER NINE
OTTOMAN SIYAQ NUMBER TEN;OTTOMAN SIYAQ NUMBER TWENTY;OTTOMAN SIYAQ NUMBER THIRTY
OTTOMAN SIYAQ NUMBER FORTY;OTTOMAN SIYAQ NUMBER FIFTY;OTTOMAN SIYAQ NUMBER SIXTY
OTTOMAN SIYAQ NUMBER SEVENTY;OTTOMAN SIYAQ NUMBER EIGHTY;OTTOMAN SIYAQ NUMBER NINETY
OTTOMAN SIYAQ NUMBER ONE HUNDRED;OTTOMAN SIYAQ NUMBER TWO HUNDRED
OTTOMAN SIYAQ NUMBER THREE HUNDRED;OTTOMAN SIYAQ NUMBER FOUR HUNDRED
OTTOMAN SIYAQ NUMBER FIVE HUNDRED;OTTOMAN SIYAQ NUMBER SIX HUNDRED
OTTOMAN SIYAQ NUMBER SEVEN HUNDRED;OTTOMAN SIYAQ NUMBER EIGHT HUNDRED
OTTOMAN SIYAQ NUMBER NINE HUNDRED;OTTOMAN SIYAQ NUMBER ONE THOUSAND
OTTOMAN SIYAQ NUMBER TWO THOUSAND;OTTOMAN SIYAQ NUMBER THREE THOUSAND
OTTOMAN SIYAQ NUMBER FOUR THOUSAND;OTTOMAN SIYAQ NUMBER FIVE THOUSAND
OTTOMAN SIYAQ NUMBER SIX THOUSAND;OTTOMAN SIYAQ NUMBER SEVEN THOUSAND
OTTOMAN SIYAQ NUMBER EIGHT THOUSAND;OTTOMAN SIYAQ NUMBER NINE THOUSAND
OTTOMAN SIYAQ NUMBER TEN THOUSAND;OTTOMAN SIYAQ NUMBER TWENTY THOUSAND
OTTOMAN SIYAQ NUMBER THIRTY THOUSAND;OTTOMAN SIYAQ NUMBER FORTY THOUSAND
OTTOMAN SIYAQ NUMBER FIFTY THOUSAND;OTTOMAN SIYAQ NUMBER SIXTY THOUSAND
OTTOMAN SIYAQ NUMBER SEVENTY THOUSAND;OTTOMAN SIYAQ NUMBER EIGHTY THOUSAND
OTTOMAN SIYAQ NUMBER NINETY THOUSAND;OTTOMAN SIYAQ MARRATAN;OTTOMAN SIYAQ ALTERNATE NUMBER TWO
OTTOMAN SIYAQ ALTERNATE NUMBER THREE;OTTOMAN SIYAQ ALTERNATE NUMBER FOUR
OTTOMAN SIYAQ ALTERNATE NUMBER FIVE;OTTOMAN SIYAQ ALTERNATE NUMBER SIX
OTTOMAN SIYAQ ALTERNATE NUMBER SEVEN;OTTOMAN SIYAQ ALTERNATE NUMBER EIGHT
OTTOMAN SIYAQ ALTERNATE NUMBER NINE;OTTOMAN SIYAQ ALTERNATE NUMBER TEN
OTTOMAN SIYAQ ALTERNATE NUMBER FOUR HUNDRED;OTTOMAN SIYAQ ALTERNATE NUMBER SIX HUNDRED
OTTOMAN SIYAQ ALTERNATE NUMBER TWO THOUSAND;OTTOMAN SIYAQ ALTERNATE NUMBER TEN THOUSAND
OTTOMAN SIYAQ FRACTION ONE HALF;OTTOMAN SIYAQ FRACTION ONE SIXTH"),
  (0x1ee00, "ARABIC MATHEMATICAL ALEF;ARABIC MATHEMATICAL BEH;ARABIC MATHEMATICAL JEEM
ARABIC MATHEMATICAL DAL"),
  (0x1ee05, "ARABIC MATHEMATICAL WAW;ARABIC MATHEMATICAL ZAIN;ARABIC MATHEMATICAL HAH
ARABIC MATHEMATICAL TAH;ARABIC MATHEMATICAL YEH;ARABIC MATHEMATICAL KAF;ARABIC MATHEMATICAL LAM
ARABIC MATHEMATICAL MEEM;ARABIC MATHEMATICAL NOON;ARABIC MATHEMATICAL SEEN
ARABIC MATHEMATICAL AIN;ARABIC MATHEMATICAL FEH;ARABIC MATHEMATICAL SAD;ARABIC MATHEMATICAL QAF
ARABIC MATHEMATICAL REH;ARABIC MATHEMATICAL SHEEN;ARABIC MATHEMATICAL TEH
ARABIC MATHEMATICAL THEH;ARABIC MATHEMATICAL KHAH;ARABIC MATHEMATICAL THAL
ARABIC MATHEMATICAL DAD;ARABIC MATHEMATICAL ZAH;ARABIC MATHEMATICAL GHAIN
ARABIC MATHEMATICAL DOTLESS BEH;ARABIC MATHEMATICAL DOTLESS NOON;ARABIC MATHEMATICAL DOTLESS FEH
ARABIC MATHEMATICAL DOTLESS QAF"),
  (0x1ee21, "ARABIC MATHEMATICAL INITIAL BEH;ARABIC MATHEMATICAL INITIAL JEEM"),
  (0x1ee24, "ARABIC MATHEMATICAL INITIAL HEH"),
  (0x1ee27, "ARABIC MATHEMATICAL INITIAL HAH"),
  (0x1ee29, "ARABIC MATHEMATICAL INITIAL YEH;ARABIC MATHEMATICAL INITIAL KAF
ARABIC MATHEMATICAL INITIAL LAM;ARABIC MATHEMATICAL INITIAL MEEM;ARABIC MATHEMATICAL INITIAL NOON
ARABIC MATHEMATICAL INITIAL SEEN;ARABIC MATHEMATICAL INITIAL AIN;ARABIC MATHEMATICAL INITIAL FEH
ARABIC MATHEMATICAL INITIAL SAD;ARABIC MATHEMATICAL INITIAL QAF"),
  (0x1ee34, "ARABIC MATHEMATICAL INITIAL SHEEN;ARABIC MATHEMATICAL INITIAL TEH
ARABIC MATHEMATICAL INITIAL THEH;ARABIC MATHEMATICAL INITIAL KHAH"),
  (0x1ee39, "ARABIC MATHEMATICAL INITIAL DAD"),
  (0x1ee3b, "ARABIC MATHEMATICAL INITIAL GHAIN"),
  (0x1ee42, "ARABIC MATHEMATICAL TAILED JEEM"),
  (0x1ee47, "ARABIC MATHEMATICAL TAILED HAH"),
  (0x1ee49, "ARABIC MATHEMATICAL TAILED YEH"),
  (0x1ee4b, "ARABIC MATHEMATICAL TAILED LAM"),
  (0x1ee4d, "ARABIC MATHEMATICAL TAILED NOON;ARABIC MATHEMATICAL TAILED SEEN
ARABIC MATHEMATICAL TAILED AIN"),
  (0x1ee51, "ARABIC MATHEMATICAL TAILED SAD;ARABIC MATHEMATICAL TAILED QAF"),
  (0x1ee54, "ARABIC MATHEMATICAL TAILED SHEEN"),
  (0x1ee57, "ARABIC MATHEMATICAL TAILED KHAH"),
  (0x1ee59, "ARABIC MATHEMATICAL TAILED DAD"),
  (0x1ee5b, "ARABIC MATHEMATICAL TAILED GHAIN"),
  (0x1ee5d, "ARABIC MATHEMATICAL TAILED DOTLESS NOON"),
  (0x1ee5f, "ARABIC MATHEMATICAL TAILED DOTLESS QAF"),
  (0x1ee61, "ARABIC MATHEMATICAL STRETCHED BEH;ARABIC MATHEMATICAL STRETCHED JEEM"),
  (0x1ee64, "ARABIC MATHEMATICAL STRETCHED HEH"),
  (0x1ee67, "ARABIC MATHEMATICAL STRETCHED HAH;ARABIC MATHEMATICAL STRETCHED TAH
ARABIC MATHEMATICAL STRETCHED YEH;ARABIC MATHEMATICAL STRETCHED KAF"),
  (0x1ee6c, "ARABIC MATHEMATICAL STRETCHED MEEM;ARABIC MATHEMATICAL STRETCHED NOON
ARABIC MATHEMATICAL STRETCHED SEEN;ARABIC MATHEMATICAL STRETCHED AIN
ARABIC MATHEMATICAL STRETCHED FEH;ARABIC MATHEMATICAL STRETCHED SAD
ARABIC MATHEMATICAL STRETCHED QAF"),
  (0x1ee74, "ARABIC MATHEMATICAL STRETCHED SHEEN;ARABIC MATHEMATICAL STRETCHED TEH
ARABIC MATHEMATICAL STRETCHED THEH;ARABIC MATHEMATICAL STRETCHED KHAH"),
  (0x1ee79, "ARABIC MATHEMATICAL STRETCHED DAD;ARABIC MATHEMATICAL STRETCHED ZAH
ARABIC MATHEMATICAL STRETCHED GHAIN;ARABIC MATHEMATICAL STRETCHED DOTLESS BEH"),
  (0x1ee7e, "ARABIC MATHEMATICAL STRETCHED DOTLESS FEH"),
  (0x1ee80, "ARABIC MATHEMATICAL LOOPED ALEF;ARABIC MATHEMATICAL LOOPED BEH
ARABIC MATHEMATICAL LOOPED JEEM;ARABIC MATHEMATICAL LOOPED DAL;ARABIC MATHEMATICAL LOOPED HEH
ARABIC MATHEMATICAL LOOPED WAW;ARABIC MATHEMATICAL LOOPED ZAIN;ARABIC MATHEMATICAL LOOPED HAH
ARABIC MATHEMATICAL LOOPED TAH;ARABIC MATHEMATICAL LOOPED YEH"),
  (0x1ee8b, "ARABIC MATHEMATICAL LOOPED LAM;ARABIC MATHEMATICAL LOOPED MEEM
ARABIC MATHEMATICAL LOOPED NOON;ARABIC MATHEMATICAL LOOPED SEEN;ARABIC MATHEMATICAL LOOPED AIN
ARABIC MATHEMATICAL LOOPED FEH;ARABIC MATHEMATICAL LOOPED SAD;ARABIC MATHEMATICAL LOOPED QAF
ARABIC MATHEMATICAL LOOPED REH;ARABIC MATHEMATICAL LOOPED SHEEN;ARABIC MATHEMATICAL LOOPED TEH
ARABIC MATHEMATICAL LOOPED THEH;ARABIC MATHEMATICAL LOOPED KHAH;ARABIC MATHEMATICAL LOOPED THAL
ARABIC MATHEMATICAL LOOPED DAD;ARABIC MATHEMATICAL LOOPED ZAH;ARABIC MATHEMATICAL LOOPED GHAIN"),
  (0x1eea1, "ARABIC MATHEMATICAL DOUBLE-STRUCK BEH;ARABIC MATHEMATICAL DOUBLE-STRUCK JEEM
ARABIC MATHEMATICAL DOUBLE-STRUCK DAL"),
  (0x1eea5, "ARABIC MATHEMATICAL DOUBLE-STRUCK WAW;ARABIC MATHEMATICAL DOUBLE-STRUCK ZAIN
ARABIC MATHEMATICAL DOUBLE-STRUCK HAH;ARABIC MATHEMATICAL DOUBLE-STRUCK TAH
ARABIC MATHEMATICAL DOUBLE-STRUCK YEH"),
  (0x1eeab, "ARABIC MATHEMATICAL DOUBLE-STRUCK LAM;ARABIC MATHEMATICAL DOUBLE-STRUCK MEEM
ARABIC MATHEMATICAL DOUBLE-STRUCK NOON;ARABIC MATHEMATICAL DOUBLE-STRUCK SEEN
ARABIC MATHEMATICAL DOUBLE-STRUCK AIN;ARABIC MATHEMATICAL DOUBLE-STRUCK FEH
ARABIC MATHEMATICAL DOUBLE-STRUCK SAD;ARABIC MATHEMATICAL DOUBLE-STRUCK QAF
ARABIC MATHEMATICAL DOUBLE-STRUCK REH;ARABIC MATHEMATICAL DOUBLE-STRUCK SHEEN
ARABIC MATHEMATICAL DOUBLE-STRUCK TEH;ARABIC MATHEMATICAL DOUBLE-STRUCK THEH
ARABIC MATHEMATICAL DOUBLE-STRUCK KHAH;ARABIC MATHEMATICAL DOUBLE-STRUCK THAL
ARABIC MATHEMATICAL DOUBLE-STRUCK DAD;ARABIC MATHEMATICAL DOUBLE-STRUCK ZAH
ARABIC MATHEMATICAL DOUBLE-STRUCK GHAIN"),
  (0x1eef0, "ARABIC MATHEMATICAL OPERATOR MEEM WITH HAH WITH TATWEEL
ARABIC MATHEMATICAL OPERATOR HAH WITH DAL"),
  (0x1f000, "MAHJONG TILE EAST WIND;MAHJONG TILE SOUTH WIND;MAHJONG TILE WEST WIND
MAHJONG TILE NORTH WIND;MAHJONG TILE RED DRAGON;MAHJONG TILE GREEN DRAGON
MAHJONG TILE WHITE DRAGON;MAHJONG TILE ONE OF CHARACTERS;MAHJONG TILE TWO OF CHARACTERS
MAHJONG TILE THREE OF CHARACTERS;MAHJONG TILE FOUR OF CHARACTERS;MAHJONG TILE FIVE OF CHARACTERS
MAHJONG TILE SIX OF CHARACTERS;MAHJONG TILE SEVEN OF CHARACTERS;MAHJONG TILE EIGHT OF CHARACTERS
MAHJONG TILE NINE OF CHARACTERS;MAHJONG TILE ONE OF BAMBOOS;MAHJONG TILE TWO OF BAMBOOS
MAHJONG TILE THREE OF BAMBOOS;MAHJONG TILE FOUR OF BAMBOOS;MAHJONG TILE FIVE OF BAMBOOS
MAHJONG TILE SIX OF BAMBOOS;MAHJONG TILE SEVEN OF BAMBOOS;MAHJONG TILE EIGHT OF BAMBOOS
MAHJONG TILE NINE OF BAMBOOS;MAHJONG TILE ONE OF CIRCLES;MAHJONG TILE TWO OF CIRCLES
MAHJONG TILE THREE OF CIRCLES;MAHJONG TILE FOUR OF CIRCLES;MAHJONG TILE FIVE OF CIRCLES
MAHJONG TILE SIX OF CIRCLES;MAHJONG TILE SEVEN OF CIRCLES;MAHJONG TILE EIGHT OF CIRCLES
MAHJONG TILE NINE OF CIRCLES;MAHJONG TILE PLUM;MAHJONG TILE ORCHID;MAHJONG TILE BAMBOO
MAHJONG TILE CHRYSANTHEMUM;MAHJONG TILE SPRING;MAHJONG TILE SUMMER;MAHJONG TILE AUTUMN
MAHJONG TILE WINTER;MAHJONG TILE JOKER;MAHJONG TILE BACK"),
  (0x1f030, "DOMINO TILE HORIZONTAL BACK;DOMINO TILE HORIZONTAL-00-00
DOMINO TILE HORIZONTAL-00-01;DOMINO TILE HORIZONTAL-00-02;DOMINO TILE HORIZONTAL-00-03
DOMINO TILE HORIZONTAL-00-04;DOMINO TILE HORIZONTAL-00-05;DOMINO TILE HORIZONTAL-00-06
DOMINO TILE HORIZONTAL-01-00;DOMINO TILE HORIZONTAL-01-01;DOMINO TILE HORIZONTAL-01-02
DOMINO TILE HORIZONTAL-01-03;DOMINO TILE HORIZONTAL-01-04;DOMINO TILE HORIZONTAL-01-05
DOMINO TILE HORIZONTAL-01-06;DOMINO TILE HORIZONTAL-02-00;DOMINO TILE HORIZONTAL-02-01
DOMINO TILE HORIZONTAL-02-02;DOMINO TILE HORIZONTAL-02-03;DOMINO TILE HORIZONTAL-02-04
DOMINO TILE HORIZONTAL-02-05;DOMINO TILE HORIZONTAL-02-06;DOMINO TILE HORIZONTAL-03-00
DOMINO TILE HORIZONTAL-03-01;DOMINO TILE HORIZONTAL-03-02;DOMINO TILE HORIZONTAL-03-03
DOMINO TILE HORIZONTAL-03-04;DOMINO TILE HORIZONTAL-03-05;DOMINO TILE HORIZONTAL-03-06
DOMINO TILE HORIZONTAL-04-00;DOMINO TILE HORIZONTAL-04-01;DOMINO TILE HORIZONTAL-04-02
DOMINO TILE HORIZONTAL-04-03;DOMINO TILE HORIZONTAL-04-04;DOMINO TILE HORIZONTAL-04-05
DOMINO TILE HORIZONTAL-04-06;DOMINO TILE HORIZONTAL-05-00;DOMINO TILE HORIZONTAL-05-01
DOMINO TILE HORIZONTAL-05-02;DOMINO TILE HORIZONTAL-05-03;DOMINO TILE HORIZONTAL-05-04
DOMINO TILE HORIZONTAL-05-05;DOMINO TILE HORIZONTAL-05-06;DOMINO TILE HORIZONTAL-06-00
DOMINO TILE HORIZONTAL-06-01;DOMINO TILE HORIZONTAL-06-02;DOMINO TILE HORIZONTAL-06-03
DOMINO TILE HORIZONTAL-06-04;DOMINO TILE HORIZONTAL-06-05;DOMINO TILE HORIZONTAL-06-06
DOMINO TILE VERTICAL BACK;DOMINO TILE VERTICAL-00-00;DOMINO TILE VERTICAL-00-01
DOMINO TILE VERTICAL-00-02;DOMINO TILE VERTICAL-00-03;DOMINO TILE VERTICAL-00-04
DOMINO TILE VERTICAL-00-05;DOMINO TILE VERTICAL-00-06;DOMINO TILE VERTICAL-01-00
DOMINO TILE VERTICAL-01-01;DOMINO TILE VERTICAL-01-02;DOMINO TILE VERTICAL-01-03
DOMINO TILE VERTICAL-01-04;DOMINO TILE VERTICAL-01-05;DOMINO TILE VERTICAL-01-06
DOMINO TILE VERTICAL-02-00;DOMINO TILE VERTICAL-02-01;DOMINO TILE VERTICAL-02-02
DOMINO TILE VERTICAL-02-03;DOMINO TILE VERTICAL-02-04;DOMINO TILE VERTICAL-02-05
DOMINO TILE VERTICAL-02-06;DOMINO TILE VERTICAL-03-00;DOMINO TILE VERTICAL-03-01
DOMINO TILE VERTICAL-03-02;DOMINO TILE VERTICAL-03-03;DOMINO TILE VERTICAL-03-04
DOMINO TILE VERTICAL-03-05;DOMINO TILE VERTICAL-03-06;DOMINO TILE VERTICAL-04-00
DOMINO TILE VERTICAL-04-01;DOMINO TILE VERTICAL-04-02;DOMINO TILE VERTICAL-04-03
DOMINO TILE VERTICAL-04-04;DOMINO TILE VERTICAL-04-05;DOMINO TILE VERTICAL-04-06
DOMINO TILE VERTICAL-05-00;DOMINO TILE VERTICAL-05-01;DOMINO TILE VERTICAL-05-02
DOMINO TILE VERTICAL-05-03;DOMINO TILE VERTICAL-05-04;DOMINO TILE VERTICAL-05-05
DOMINO TILE VERTICAL-05-06;DOMINO TILE VERTICAL-06-00;DOMINO TILE VERTICAL-06-01
DOMINO TILE VERTICAL-06-02;DOMINO TILE VERTICAL-06-03;DOMINO TILE VERTICAL-06-04
DOMINO TILE VERTICAL-06-05;DOMINO TILE VERTICAL-06-06"),
  (0x1f0a0, "PLAYING CARD BACK;PLAYING CARD ACE OF SPADES;PLAYING CARD TWO OF SPADES
PLAYING CARD THREE OF SPADES;PLAYING CARD FOUR OF SPADES;PLAYING CARD FIVE OF SPADES
PLAYING CARD SIX OF SPADES;PLAYING CARD SEVEN OF SPADES;PLAYING CARD EIGHT OF SPADES
PLAYING CARD NINE OF SPADES;PLAYING CARD TEN OF SPADES;PLAYING CARD JACK OF SPADES
PLAYING CARD KNIGHT OF SPADES;PLAYING CARD QUEEN OF SPADES;PLAYING CARD KING OF SPADES"),
  (0x1f0b1, "PLAYING CARD ACE OF HEARTS;PLAYING CARD TWO OF HEARTS;PLAYING CARD THREE OF HEARTS
PLAYING CARD FOUR OF HEARTS;PLAYING CARD FIVE OF HEARTS;PLAYING CARD SIX OF HEARTS
PLAYING CARD SEVEN OF HEARTS;PLAYING CARD EIGHT OF HEARTS;PLAYING CARD NINE OF HEARTS
PLAYING CARD TEN OF HEARTS;PLAYING CARD JACK OF HEARTS;PLAYING CARD KNIGHT OF HEARTS
PLAYING CARD QUEEN OF HEARTS;PLAYING CARD KING OF HEARTS;PLAYING CARD RED JOKER"),
  (0x1f0c1, "PLAYING CARD ACE OF DIAMONDS;PLAYING CARD TWO OF DIAMONDS
PLAYING CARD THREE OF DIAMONDS;PLAYING CARD FOUR OF DIAMONDS;PLAYING CARD FIVE OF DIAMONDS
PLAYING CARD SIX OF DIAMONDS;PLAYING CARD SEVEN OF DIAMONDS;PLAYING CARD EIGHT OF DIAMONDS
PLAYING CARD NINE OF DIAMONDS;PLAYING CARD TEN OF DIAMONDS;PLAYING CARD JACK OF DIAMONDS
PLAYING CARD KNIGHT OF DIAMONDS;PLAYING CARD QUEEN OF DIAMONDS;PLAYING CARD KING OF DIAMONDS
PLAYING CARD BLACK JOKER"),
  (0x1f0d1, "PLAYING CARD ACE OF CLUBS;PLAYING CARD TWO OF CLUBS;PLAYING CARD THREE OF CLUBS
PLAYING CARD FOUR OF CLUBS;PLAYING CARD FIVE OF CLUBS;PLAYING CARD SIX OF CLUBS
PLAYING CARD SEVEN OF CLUBS;PLAYING CARD EIGHT OF CLUBS;PLAYING CARD NINE OF CLUBS
PLAYING CARD TEN OF CLUBS;PLAYING CARD JACK OF CLUBS;PLAYING CARD KNIGHT OF CLUBS
PLAYING CARD QUEEN OF CLUBS;PLAYING CARD KING OF CLUBS;PLAYING CARD WHITE JOKER;PLAYING CARD FOOL
PLAYING CARD TRUMP-1;PLAYING CARD TRUMP-2;PLAYING CARD TRUMP-3;PLAYING CARD TRUMP-4
PLAYING CARD TRUMP-5;PLAYING CARD TRUMP-6;PLAYING CARD TRUMP-7;PLAYING CARD TRUMP-8
PLAYING CARD TRUMP-9;PLAYING CARD TRUMP-10;PLAYING CARD TRUMP-11;PLAYING CARD TRUMP-12
PLAYING CARD TRUMP-13;PLAYING CARD TRUMP-14;PLAYING CARD TRUMP-15;PLAYING CARD TRUMP-16
PLAYING CARD TRUMP-17;PLAYING CARD TRUMP-18;PLAYING CARD TRUMP-19;PLAYING CARD TRUMP-20
PLAYING CARD TRUMP-21"),
  (0x1f100, "DIGIT ZERO FULL STOP;DIGIT ZERO COMMA;DIGIT ONE COMMA;DIGIT TWO COMMA
DIGIT THREE COMMA;DIGIT FOUR COMMA;DIGIT FIVE COMMA;DIGIT SIX COMMA;DIGIT SEVEN COMMA
DIGIT EIGHT COMMA;DIGIT NINE COMMA;DINGBAT CIRCLED SANS-SERIF DIGIT ZERO
DINGBAT NEGATIVE CIRCLED SANS-SERIF DIGIT ZERO;CIRCLED ZERO WITH SLASH
CIRCLED ANTICLOCKWISE ARROW;CIRCLED DOLLAR SIGN WITH OVERLAID BACKSLASH
PARENTHESIZED LATIN CAPITAL LETTER A;PARENTHESIZED LATIN CAPITAL LETTER B
PARENTHESIZED LATIN CAPITAL LETTER C;PARENTHESIZED LATIN CAPITAL LETTER D
PARENTHESIZED LATIN CAPITAL LETTER E;PARENTHESIZED LATIN CAPITAL LETTER F
PARENTHESIZED LATIN CAPITAL LETTER G;PARENTHESIZED LATIN CAPITAL LETTER H
PARENTHESIZED LATIN CAPITAL LETTER I;PARENTHESIZED LATIN CAPITAL LETTER J
PARENTHESIZED LATIN CAPITAL LETTER K;PARENTHESIZED LATIN CAPITAL LETTER L
PARENTHESIZED LATIN CAPITAL LETTER M;PARENTHESIZED LATIN CAPITAL LETTER N
PARENTHESIZED LATIN CAPITAL LETTER O;PARENTHESIZED LATIN CAPITAL LETTER P
PARENTHESIZED LATIN CAPITAL LETTER Q;PARENTHESIZED LATIN CAPITAL LETTER R
PARENTHESIZED LATIN CAPITAL LETTER S;PARENTHESIZED LATIN CAPITAL LETTER T
PARENTHESIZED LATIN CAPITAL LETTER U;PARENTHESIZED LATIN CAPITAL LETTER V
PARENTHESIZED LATIN CAPITAL LETTER W;PARENTHESIZED LATIN CAPITAL LETTER X
PARENTHESIZED LATIN CAPITAL LETTER Y;PARENTHESIZED LATIN CAPITAL LETTER Z
TORTOISE SHELL BRACKETED LATIN CAPITAL LETTER S;CIRCLED ITALIC LATIN CAPITAL LETTER C
CIRCLED ITALIC LATIN CAPITAL LETTER R;CIRCLED CD;CIRCLED WZ;COPYLEFT SYMBOL
SQUARED LATIN CAPITAL LETTER A;SQUARED LATIN CAPITAL LETTER B;SQUARED LATIN CAPITAL LETTER C
SQUARED LATIN CAPITAL LETTER D;SQUARED LATIN CAPITAL LETTER E;SQUARED LATIN CAPITAL LETTER F
SQUARED LATIN CAPITAL LETTER G;SQUARED LATIN CAPITAL LETTER H;SQUARED LATIN CAPITAL LETTER I
SQUARED LATIN CAPITAL LETTER J;SQUARED LATIN CAPITAL LETTER K;SQUARED LATIN CAPITAL LETTER L
SQUARED LATIN CAPITAL LETTER M;SQUARED LATIN CAPITAL LETTER N;SQUARED LATIN CAPITAL LETTER O
SQUARED LATIN CAPITAL LETTER P;SQUARED LATIN CAPITAL LETTER Q;SQUARED LATIN CAPITAL LETTER R
SQUARED LATIN CAPITAL LETTER S;SQUARED LATIN CAPITAL LETTER T;SQUARED LATIN CAPITAL LETTER U
SQUARED LATIN CAPITAL LETTER V;SQUARED LATIN CAPITAL LETTER W;SQUARED LATIN CAPITAL LETTER X
SQUARED LATIN CAPITAL LETTER Y;SQUARED LATIN CAPITAL LETTER Z;SQUARED HV;SQUARED MV;SQUARED SD
SQUARED SS;SQUARED PPV;SQUARED WC;NEGATIVE CIRCLED LATIN CAPITAL LETTER A
NEGATIVE CIRCLED LATIN CAPITAL LETTER B;NEGATIVE CIRCLED LATIN CAPITAL LETTER C
NEGATIVE CIRCLED LATIN CAPITAL LETTER D;NEGATIVE CIRCLED LATIN CAPITAL LETTER E
NEGATIVE CIRCLED LATIN CAPITAL LETTER F;NEGATIVE CIRCLED LATIN CAPITAL LETTER G
NEGATIVE CIRCLED LATIN CAPITAL LETTER H;NEGATIVE CIRCLED LATIN CAPITAL LETTER I
NEGATIVE CIRCLED LATIN CAPITAL LETTER J;NEGATIVE CIRCLED LATIN CAPITAL LETTER K
NEGATIVE CIRCLED LATIN CAPITAL LETTER L;NEGATIVE CIRCLED LATIN CAPITAL LETTER M
NEGATIVE CIRCLED LATIN CAPITAL LETTER N;NEGATIVE CIRCLED LATIN CAPITAL LETTER O
NEGATIVE CIRCLED LATIN CAPITAL LETTER P;NEGATIVE CIRCLED LATIN CAPITAL LETTER Q
NEGATIVE CIRCLED LATIN CAPITAL LETTER R;NEGATIVE CIRCLED LATIN CAPITAL LETTER S
NEGATIVE CIRCLED LATIN CAPITAL LETTER T;NEGATIVE CIRCLED LATIN CAPITAL LETTER U
NEGATIVE CIRCLED LATIN CAPITAL LETTER V;NEGATIVE CIRCLED LATIN CAPITAL LETTER W
NEGATIVE CIRCLED LATIN CAPITAL LETTER X;NEGATIVE CIRCLED LATIN CAPITAL LETTER Y
NEGATIVE CIRCLED LATIN CAPITAL LETTER Z;RAISED MC SIGN;RAISED MD SIGN;RAISED MR SIGN;CIRCLED CC
CIRCLED C WITH OVERLAID BACKSLASH;CIRCLED HUMAN FIGURE;NEGATIVE SQUARED LATIN CAPITAL LETTER A
NEGATIVE SQUARED LATIN CAPITAL LETTER B;NEGATIVE SQUARED LATIN CAPITAL LETTER C
NEGATIVE SQUARED LATIN CAPITAL LETTER D;NEGATIVE SQUARED LATIN CAPITAL LETTER E
NEGATIVE SQUARED LATIN CAPITAL LETTER F;NEGATIVE SQUARED LATIN CAPITAL LETTER G
NEGATIVE SQUARED LATIN CAPITAL LETTER H;NEGATIVE SQUARED LATIN CAPITAL LETTER I
NEGATIVE SQUARED LATIN CAPITAL LETTER J;NEGATIVE SQUARED LATIN CAPITAL LETTER K
NEGATIVE SQUARED LATIN CAPITAL LETTER L;NEGATIVE SQUARED LATIN CAPITAL LETTER M
NEGATIVE SQUARED LATIN CAPITAL LETTER N;NEGATIVE SQUARED LATIN CAPITAL LETTER O
NEGATIVE SQUARED LATIN CAPITAL LETTER P;NEGATIVE SQUARED LATIN CAPITAL LETTER Q
NEGATIVE SQUARED LATIN CAPITAL LETTER R;NEGATIVE SQUARED LATIN CAPITAL LETTER S
NEGATIVE SQUARED LATIN CAPITAL LETTER T;NEGATIVE SQUARED LATIN CAPITAL LETTER U
NEGATIVE SQUARED LATIN CAPITAL LETTER V;NEGATIVE SQUARED LATIN CAPITAL LETTER W
NEGATIVE SQUARED LATIN CAPITAL LETTER X;NEGATIVE SQUARED LATIN CAPITAL LETTER Y
NEGATIVE SQUARED LATIN CAPITAL LETTER Z;CROSSED NEGATIVE SQUARED LATIN CAPITAL LETTER P
NEGATIVE SQUARED IC;NEGATIVE SQUARED PA;NEGATIVE SQUARED SA;NEGATIVE SQUARED AB
NEGATIVE SQUARED WC;SQUARE DJ;SQUARED CL;SQUARED COOL;SQUARED FREE;SQUARED ID;SQUARED NEW
SQUARED NG;SQUARED OK;SQUARED SOS;SQUARED UP WITH EXCLAMATION MARK;SQUARED VS;SQUARED THREE D
SQUARED SECOND SCREEN;SQUARED TWO K;SQUARED FOUR K;SQUARED EIGHT K;SQUARED FIVE POINT ONE
SQUARED SEVEN POINT ONE;SQUARED TWENTY-TWO POINT TWO;SQUARED SIXTY P;SQUARED ONE HUNDRED TWENTY P
SQUARED LATIN SMALL LETTER D;SQUARED HC;SQUARED HDR;SQUARED HI-RES;SQUARED LOSSLESS;SQUARED SHV
SQUARED UHD;SQUARED VOD;MASK WORK SYMBOL"),
  (0x1f1e6, "REGIONAL INDICATOR SYMBOL LETTER A;REGIONAL INDICATOR SYMBOL LETTER B
REGIONAL INDICATOR SYMBOL LETTER C;REGIONAL INDICATOR SYMBOL LETTER D
REGIONAL INDICATOR SYMBOL LETTER E;REGIONAL INDICATOR SYMBOL LETTER F
REGIONAL INDICATOR SYMBOL LETTER G;REGIONAL INDICATOR SYMBOL LETTER H
REGIONAL INDICATOR SYMBOL LETTER I;REGIONAL INDICATOR SYMBOL LETTER J
REGIONAL INDICATOR SYMBOL LETTER K;REGIONAL INDICATOR SYMBOL LETTER L
REGIONAL INDICATOR SYMBOL LETTER M;REGIONAL INDICATOR SYMBOL LETTER N
REGIONAL INDICATOR SYMBOL LETTER O;REGIONAL INDICATOR SYMBOL LETTER P
REGIONAL INDICATOR SYMBOL LETTER Q;REGIONAL INDICATOR SYMBOL LETTER R
REGIONAL INDICATOR SYMBOL LETTER S;REGIONAL INDICATOR SYMBOL LETTER T
REGIONAL INDICATOR SYMBOL LETTER U;REGIONAL INDICATOR SYMBOL LETTER V
REGIONAL INDICATOR SYMBOL LETTER W;REGIONAL INDICATOR SYMBOL LETTER X
REGIONAL INDICATOR SYMBOL LETTER Y;REGIONAL INDICATOR SYMBOL LETTER Z;SQUARE HIRAGANA HOKA
SQUARED KATAKANA KOKO;SQUARED KATAKANA SA"),
  (0x1f210, "SQUARED CJK UNIFIED IDEOGRAPH-624B;SQUARED CJK UNIFIED IDEOGRAPH-5B57
SQUARED CJK UNIFIED IDEOGRAPH-53CC;SQUARED KATAKANA DE;SQUARED CJK UNIFIED IDEOGRAPH-4E8C
SQUARED CJK UNIFIED IDEOGRAPH-591A;SQUARED CJK UNIFIED IDEOGRAPH-89E3
SQUARED CJK UNIFIED IDEOGRAPH-5929;SQUARED CJK UNIFIED IDEOGRAPH-4EA4
SQUARED CJK UNIFIED IDEOGRAPH-6620;SQUARED CJK UNIFIED IDEOGRAPH-7121
SQUARED CJK UNIFIED IDEOGRAPH-6599;SQUARED CJK UNIFIED IDEOGRAPH-524D
SQUARED CJK UNIFIED IDEOGRAPH-5F8C;SQUARED CJK UNIFIED IDEOGRAPH-518D
SQUARED CJK UNIFIED IDEOGRAPH-65B0;SQUARED CJK UNIFIED IDEOGRAPH-521D
SQUARED CJK UNIFIED IDEOGRAPH-7D42;SQUARED CJK UNIFIED IDEOGRAPH-751F
SQUARED CJK UNIFIED IDEOGRAPH-8CA9;SQUARED CJK UNIFIED IDEOGRAPH-58F0
SQUARED CJK UNIFIED IDEOGRAPH-5439;SQUARED CJK UNIFIED IDEOGRAPH-6F14
SQUARED CJK UNIFIED IDEOGRAPH-6295;SQUARED CJK UNIFIED IDEOGRAPH-6355
SQUARED CJK UNIFIED IDEOGRAPH-4E00;SQUARED CJK UNIFIED IDEOGRAPH-4E09
SQUARED CJK UNIFIED IDEOGRAPH-904A;SQUARED CJK UNIFIED IDEOGRAPH-5DE6
SQUARED CJK UNIFIED IDEOGRAPH-4E2D;SQUARED CJK UNIFIED IDEOGRAPH-53F3
SQUARED CJK UNIFIED IDEOGRAPH-6307;SQUARED CJK UNIFIED IDEOGRAPH-8D70
SQUARED CJK UNIFIED IDEOGRAPH-6253;SQUARED CJK UNIFIED IDEOGRAPH-7981
SQUARED CJK UNIFIED IDEOGRAPH-7A7A;SQUARED CJK UNIFIED IDEOGRAPH-5408
SQUARED CJK UNIFIED IDEOGRAPH-6E80;SQUARED CJK UNIFIED IDEOGRAPH-6709
SQUARED CJK UNIFIED IDEOGRAPH-6708;SQUARED CJK UNIFIED IDEOGRAPH-7533
SQUARED CJK UNIFIED IDEOGRAPH-5272;SQUARED CJK UNIFIED IDEOGRAPH-55B6
SQUARED CJK UNIFIED IDEOGRAPH-914D"),
  (0x1f240, "TORTOISE SHELL BRACKETED CJK UNIFIED IDEOGRAPH-672C
TORTOISE SHELL BRACKETED CJK UNIFIED IDEOGRAPH-4E09
TORTOISE SHELL BRACKETED CJK UNIFIED IDEOGRAPH-4E8C
TORTOISE SHELL BRACKETED CJK UNIFIED IDEOGRAPH-5B89
TORTOISE SHELL BRACKETED CJK UNIFIED IDEOGRAPH-70B9
TORTOISE SHELL BRACKETED CJK UNIFIED IDEOGRAPH-6253
TORTOISE SHELL BRACKETED CJK UNIFIED IDEOGRAPH-76D7
TORTOISE SHELL BRACKETED CJK UNIFIED IDEOGRAPH-52DD
TORTOISE SHELL BRACKETED CJK UNIFIED IDEOGRAPH-6557"),
  (0x1f250, "CIRCLED IDEOGRAPH ADVANTAGE;CIRCLED IDEOGRAPH ACCEPT"),
  (0x1f260, "ROUNDED SYMBOL FOR FU;ROUNDED SYMBOL FOR LU;ROUNDED SYMBOL FOR SHOU
ROUNDED SYMBOL FOR XI;ROUNDED SYMBOL FOR SHUANGXI;ROUNDED SYMBOL FOR CAI"),
  (0x1f300, "CYCLONE;FOGGY;CLOSED UMBRELLA;NIGHT WITH STARS;SUNRISE OVER MOUNTAINS;SUNRISE
CITYSCAPE AT DUSK;SUNSET OVER BUILDINGS;RAINBOW;BRIDGE AT NIGHT;WATER WAVE;VOLCANO;MILKY WAY
EARTH GLOBE EUROPE-AFRICA;EARTH GLOBE AMERICAS;EARTH GLOBE ASIA-AUSTRALIA;GLOBE WITH MERIDIANS
NEW MOON SYMBOL;WAXING CRESCENT MOON SYMBOL;FIRST QUARTER MOON SYMBOL;WAXING GIBBOUS MOON SYMBOL
FULL MOON SYMBOL;WANING GIBBOUS MOON SYMBOL;LAST QUARTER MOON SYMBOL;WANING CRESCENT MOON SYMBOL
CRESCENT MOON;NEW MOON WITH FACE;FIRST QUARTER MOON WITH FACE;LAST QUARTER MOON WITH FACE
FULL MOON WITH FACE;SUN WITH FACE;GLOWING STAR;SHOOTING STAR;THERMOMETER;BLACK DROPLET;WHITE SUN
WHITE SUN WITH SMALL CLOUD;WHITE SUN BEHIND CLOUD;WHITE SUN BEHIND CLOUD WITH RAIN
CLOUD WITH RAIN;CLOUD WITH SNOW;CLOUD WITH LIGHTNING;CLOUD WITH TORNADO;FOG;WIND BLOWING FACE
HOT DOG;TACO;BURRITO;CHESTNUT;SEEDLING;EVERGREEN TREE;DECIDUOUS TREE;PALM TREE;CACTUS;HOT PEPPER
TULIP;CHERRY BLOSSOM;ROSE;HIBISCUS;SUNFLOWER;BLOSSOM;EAR OF MAIZE;EAR OF RICE;HERB
FOUR LEAF CLOVER;MAPLE LEAF;FALLEN LEAF;LEAF FLUTTERING IN WIND;MUSHROOM;TOMATO;AUBERGINE;GRAPES
MELON;WATERMELON;TANGERINE;LEMON;BANANA;PINEAPPLE;RED APPLE;GREEN APPLE;PEAR;PEACH;CHERRIES
STRAWBERRY;HAMBURGER;SLICE OF PIZZA;MEAT ON BONE;POULTRY LEG;RICE CRACKER;RICE BALL;COOKED RICE
CURRY AND RICE;STEAMING BOWL;SPAGHETTI;BREAD;FRENCH FRIES;ROASTED SWEET POTATO;DANGO;ODEN;SUSHI
FRIED SHRIMP;FISH CAKE WITH SWIRL DESIGN;SOFT ICE CREAM;SHAVED ICE;ICE CREAM;DOUGHNUT;COOKIE
CHOCOLATE BAR;CANDY;LOLLIPOP;CUSTARD;HONEY POT;SHORTCAKE;BENTO BOX;POT OF FOOD;COOKING
FORK AND KNIFE;TEACUP WITHOUT HANDLE;SAKE BOTTLE AND CUP;WINE GLASS;COCKTAIL GLASS;TROPICAL DRINK
BEER MUG;CLINKING BEER MUGS;BABY BOTTLE;FORK AND KNIFE WITH PLATE;BOTTLE WITH POPPING CORK
POPCORN;RIBBON;WRAPPED PRESENT;BIRTHDAY CAKE;JACK-O-LANTERN;CHRISTMAS TREE;FATHER CHRISTMAS
FIREWORKS;FIREWORK SPARKLER;BALLOON;PARTY POPPER;CONFETTI BALL;TANABATA TREE;CROSSED FLAGS
PINE DECORATION;JAPANESE DOLLS;CARP STREAMER;WIND CHIME;MOON VIEWING CEREMONY;SCHOOL SATCHEL
GRADUATION CAP;HEART WITH TIP ON THE LEFT;BOUQUET OF FLOWERS;MILITARY MEDAL;REMINDER RIBBON
MUSICAL KEYBOARD WITH JACKS;STUDIO MICROPHONE;LEVEL SLIDER;CONTROL KNOBS
BEAMED ASCENDING MUSICAL NOTES;BEAMED DESCENDING MUSICAL NOTES;FILM FRAMES;ADMISSION TICKETS
CAROUSEL HORSE;FERRIS WHEEL;ROLLER COASTER;FISHING POLE AND FISH;MICROPHONE;MOVIE CAMERA;CINEMA
HEADPHONE;ARTIST PALETTE;TOP HAT;CIRCUS TENT;TICKET;CLAPPER BOARD;PERFORMING ARTS;VIDEO GAME
DIRECT HIT;SLOT MACHINE;BILLIARDS;GAME DIE;BOWLING;FLOWER PLAYING CARDS;MUSICAL NOTE
MULTIPLE MUSICAL NOTES;SAXOPHONE;GUITAR;MUSICAL KEYBOARD;TRUMPET;VIOLIN;MUSICAL SCORE
RUNNING SHIRT WITH SASH;TENNIS RACQUET AND BALL;SKI AND SKI BOOT;BASKETBALL AND HOOP
CHEQUERED FLAG;SNOWBOARDER;RUNNER;SURFER;SPORTS MEDAL;TROPHY;HORSE RACING;AMERICAN FOOTBALL
RUGBY FOOTBALL;SWIMMER;WEIGHT LIFTER;GOLFER;RACING MOTORCYCLE;RACING CAR;CRICKET BAT AND BALL
VOLLEYBALL;FIELD HOCKEY STICK AND BALL;ICE HOCKEY STICK AND PUCK;TABLE TENNIS PADDLE AND BALL
SNOW CAPPED MOUNTAIN;CAMPING;BEACH WITH UMBRELLA;BUILDING CONSTRUCTION;HOUSE BUILDINGS;CITYSCAPE
DERELICT HOUSE BUILDING;CLASSICAL BUILDING;DESERT;DESERT ISLAND;NATIONAL PARK;STADIUM
HOUSE BUILDING;HOUSE WITH GARDEN;OFFICE BUILDING;JAPANESE POST OFFICE;EUROPEAN POST OFFICE
HOSPITAL;BANK;AUTOMATED TELLER MACHINE;HOTEL;LOVE HOTEL;CONVENIENCE STORE;SCHOOL;DEPARTMENT STORE
FACTORY;IZAKAYA LANTERN;JAPANESE CASTLE;EUROPEAN CASTLE;WHITE PENNANT;BLACK PENNANT
WAVING WHITE FLAG;WAVING BLACK FLAG;ROSETTE;BLACK ROSETTE;LABEL;BADMINTON RACQUET AND SHUTTLECOCK
BOW AND ARROW;AMPHORA;EMOJI MODIFIER FITZPATRICK TYPE-1-2;EMOJI MODIFIER FITZPATRICK TYPE-3
EMOJI MODIFIER FITZPATRICK TYPE-4;EMOJI MODIFIER FITZPATRICK TYPE-5
EMOJI MODIFIER FITZPATRICK TYPE-6;RAT;MOUSE;OX;WATER BUFFALO;COW;TIGER;LEOPARD;RABBIT;CAT;DRAGON
CROCODILE;WHALE;SNAIL;SNAKE;HORSE;RAM;GOAT;SHEEP;MONKEY;ROOSTER;CHICKEN;DOG;PIG;BOAR;ELEPHANT
OCTOPUS;SPIRAL SHELL;BUG;ANT;HONEYBEE;LADY BEETLE;FISH;TROPICAL FISH;BLOWFISH;TURTLE
HATCHING CHICK;BABY CHICK;FRONT-FACING BABY CHICK;BIRD;PENGUIN;KOALA;POODLE;DROMEDARY CAMEL
BACTRIAN CAMEL;DOLPHIN;MOUSE FACE;COW FACE;TIGER FACE;RABBIT FACE;CAT FACE;DRAGON FACE
SPOUTING WHALE;HORSE FACE;MONKEY FACE;DOG FACE;PIG FACE;FROG FACE;HAMSTER FACE;WOLF FACE
BEAR FACE;PANDA FACE;PIG NOSE;PAW PRINTS;CHIPMUNK;EYES;EYE;EAR;NOSE;MOUTH;TONGUE
WHITE UP POINTING BACKHAND INDEX;WHITE DOWN POINTING BACKHAND INDEX
WHITE LEFT POINTING BACKHAND INDEX;WHITE RIGHT POINTING BACKHAND INDEX;FISTED HAND SIGN
WAVING HAND SIGN;OK HAND SIGN;THUMBS UP SIGN;THUMBS DOWN SIGN;CLAPPING HANDS SIGN;OPEN HANDS SIGN
CROWN;WOMANS HAT;EYEGLASSES;NECKTIE;T-SHIRT;JEANS;DRESS;KIMONO;BIKINI;WOMANS CLOTHES;PURSE
HANDBAG;POUCH;MANS SHOE;ATHLETIC SHOE;HIGH-HEELED SHOE;WOMANS SANDAL;WOMANS BOOTS;FOOTPRINTS
BUST IN SILHOUETTE;BUSTS IN SILHOUETTE;BOY;GIRL;MAN;WOMAN;FAMILY;MAN AND WOMAN HOLDING HANDS
TWO MEN HOLDING HANDS;TWO WOMEN HOLDING HANDS;POLICE OFFICER;WOMAN WITH BUNNY EARS
BRIDE WITH VEIL;PERSON WITH BLOND HAIR;MAN WITH GUA PI MAO;MAN WITH TURBAN;OLDER MAN;OLDER WOMAN
BABY;CONSTRUCTION WORKER;PRINCESS;JAPANESE OGRE;JAPANESE GOBLIN;GHOST;BABY ANGEL
EXTRATERRESTRIAL ALIEN;ALIEN MONSTER;IMP;SKULL;INFORMATION DESK PERSON;GUARDSMAN;DANCER;LIPSTICK
NAIL POLISH;FACE MASSAGE;HAIRCUT;BARBER POLE;SYRINGE;PILL;KISS MARK;LOVE LETTER;RING;GEM STONE
KISS;BOUQUET;COUPLE WITH HEART;WEDDING;BEATING HEART;BROKEN HEART;TWO HEARTS;SPARKLING HEART
GROWING HEART;HEART WITH ARROW;BLUE HEART;GREEN HEART;YELLOW HEART;PURPLE HEART;HEART WITH RIBBON
REVOLVING HEARTS;HEART DECORATION;DIAMOND SHAPE WITH A DOT INSIDE;ELECTRIC LIGHT BULB
ANGER SYMBOL;BOMB;SLEEPING SYMBOL;COLLISION SYMBOL;SPLASHING SWEAT SYMBOL;DROPLET;DASH SYMBOL
PILE OF POO;FLEXED BICEPS;DIZZY SYMBOL;SPEECH BALLOON;THOUGHT BALLOON;WHITE FLOWER
HUNDRED POINTS SYMBOL;MONEY BAG;CURRENCY EXCHANGE;HEAVY DOLLAR SIGN;CREDIT CARD
BANKNOTE WITH YEN SIGN;BANKNOTE WITH DOLLAR SIGN;BANKNOTE WITH EURO SIGN;BANKNOTE WITH POUND SIGN
MONEY WITH WINGS;CHART WITH UPWARDS TREND AND YEN SIGN;SEAT;PERSONAL COMPUTER;BRIEFCASE;MINIDISC
FLOPPY DISK;OPTICAL DISC;DVD;FILE FOLDER;OPEN FILE FOLDER;PAGE WITH CURL;PAGE FACING UP;CALENDAR
TEAR-OFF CALENDAR;CARD INDEX;CHART WITH UPWARDS TREND;CHART WITH DOWNWARDS TREND;BAR CHART
CLIPBOARD;PUSHPIN;ROUND PUSHPIN;PAPERCLIP;STRAIGHT RULER;TRIANGULAR RULER;BOOKMARK TABS;LEDGER
NOTEBOOK;NOTEBOOK WITH DECORATIVE COVER;CLOSED BOOK;OPEN BOOK;GREEN BOOK;BLUE BOOK;ORANGE BOOK
BOOKS;NAME BADGE;SCROLL;MEMO;TELEPHONE RECEIVER;PAGER;FAX MACHINE;SATELLITE ANTENNA
PUBLIC ADDRESS LOUDSPEAKER;CHEERING MEGAPHONE;OUTBOX TRAY;INBOX TRAY;PACKAGE;E-MAIL SYMBOL
INCOMING ENVELOPE;ENVELOPE WITH DOWNWARDS ARROW ABOVE;CLOSED MAILBOX WITH LOWERED FLAG
CLOSED MAILBOX WITH RAISED FLAG;OPEN MAILBOX WITH RAISED FLAG;OPEN MAILBOX WITH LOWERED FLAG
POSTBOX;POSTAL HORN;NEWSPAPER;MOBILE PHONE;MOBILE PHONE WITH RIGHTWARDS ARROW AT LEFT
VIBRATION MODE;MOBILE PHONE OFF;NO MOBILE PHONES;ANTENNA WITH BARS;CAMERA;CAMERA WITH FLASH
VIDEO CAMERA;TELEVISION;RADIO;VIDEOCASSETTE;FILM PROJECTOR;PORTABLE STEREO;PRAYER BEADS
TWISTED RIGHTWARDS ARROWS;CLOCKWISE RIGHTWARDS AND LEFTWARDS OPEN CIRCLE ARROWS
CLOCKWISE RIGHTWARDS AND LEFTWARDS OPEN CIRCLE ARROWS WITH CIRCLED ONE OVERLAY
CLOCKWISE DOWNWARDS AND UPWARDS OPEN CIRCLE ARROWS
ANTICLOCKWISE DOWNWARDS AND UPWARDS OPEN CIRCLE ARROWS;LOW BRIGHTNESS SYMBOL
HIGH BRIGHTNESS SYMBOL;SPEAKER WITH CANCELLATION STROKE;SPEAKER;SPEAKER WITH ONE SOUND WAVE
SPEAKER WITH THREE SOUND WAVES;BATTERY;ELECTRIC PLUG;LEFT-POINTING MAGNIFYING GLASS
RIGHT-POINTING MAGNIFYING GLASS;LOCK WITH INK PEN;CLOSED LOCK WITH KEY;KEY;LOCK;OPEN LOCK;BELL
BELL WITH CANCELLATION STROKE;BOOKMARK;LINK SYMBOL;RADIO BUTTON;BACK WITH LEFTWARDS ARROW ABOVE
END WITH LEFTWARDS ARROW ABOVE;ON WITH EXCLAMATION MARK WITH LEFT RIGHT ARROW ABOVE
SOON WITH RIGHTWARDS ARROW ABOVE;TOP WITH UPWARDS ARROW ABOVE;NO ONE UNDER EIGHTEEN SYMBOL
KEYCAP TEN;INPUT SYMBOL FOR LATIN CAPITAL LETTERS;INPUT SYMBOL FOR LATIN SMALL LETTERS
INPUT SYMBOL FOR NUMBERS;INPUT SYMBOL FOR SYMBOLS;INPUT SYMBOL FOR LATIN LETTERS;FIRE
ELECTRIC TORCH;WRENCH;HAMMER;NUT AND BOLT;HOCHO;PISTOL;MICROSCOPE;TELESCOPE;CRYSTAL BALL
SIX POINTED STAR WITH MIDDLE DOT;JAPANESE SYMBOL FOR BEGINNER;TRIDENT EMBLEM;BLACK SQUARE BUTTON
WHITE SQUARE BUTTON;LARGE RED CIRCLE;LARGE BLUE CIRCLE;LARGE ORANGE DIAMOND;LARGE BLUE DIAMOND
SMALL ORANGE DIAMOND;SMALL BLUE DIAMOND;UP-POINTING RED TRIANGLE;DOWN-POINTING RED TRIANGLE
UP-POINTING SMALL RED TRIANGLE;DOWN-POINTING SMALL RED TRIANGLE;LOWER RIGHT SHADOWED WHITE CIRCLE
UPPER RIGHT SHADOWED WHITE CIRCLE;CIRCLED CROSS POMMEE;CROSS POMMEE WITH HALF-CIRCLE BELOW
CROSS POMMEE;NOTCHED LEFT SEMICIRCLE WITH THREE DOTS;NOTCHED RIGHT SEMICIRCLE WITH THREE DOTS
SYMBOL FOR MARKS CHAPTER;WHITE LATIN CROSS;HEAVY LATIN CROSS;CELTIC CROSS;OM SYMBOL;DOVE OF PEACE
KAABA;MOSQUE;SYNAGOGUE;MENORAH WITH NINE BRANCHES;BOWL OF HYGIEIA;CLOCK FACE ONE OCLOCK
CLOCK FACE TWO OCLOCK;CLOCK FACE THREE OCLOCK;CLOCK FACE FOUR OCLOCK;CLOCK FACE FIVE OCLOCK
CLOCK FACE SIX OCLOCK;CLOCK FACE SEVEN OCLOCK;CLOCK FACE EIGHT OCLOCK;CLOCK FACE NINE OCLOCK
CLOCK FACE TEN OCLOCK;CLOCK FACE ELEVEN OCLOCK;CLOCK FACE TWELVE OCLOCK;CLOCK FACE ONE-THIRTY
CLOCK FACE TWO-THIRTY;CLOCK FACE THREE-THIRTY;CLOCK FACE FOUR-THIRTY;CLOCK FACE FIVE-THIRTY
CLOCK FACE SIX-THIRTY;CLOCK FACE SEVEN-THIRTY;CLOCK FACE EIGHT-THIRTY;CLOCK FACE NINE-THIRTY
CLOCK FACE TEN-THIRTY;CLOCK FACE ELEVEN-THIRTY;CLOCK FACE TWELVE-THIRTY;RIGHT SPEAKER
RIGHT SPEAKER WITH ONE SOUND WAVE;RIGHT SPEAKER WITH THREE SOUND WAVES;BULLHORN
BULLHORN WITH SOUND WAVES;RINGING BELL;BOOK;CANDLE;MANTELPIECE CLOCK;BLACK SKULL AND CROSSBONES
NO PIRACY;HOLE;MAN IN BUSINESS SUIT LEVITATING;SLEUTH OR SPY;DARK SUNGLASSES;SPIDER;SPIDER WEB
JOYSTICK;MAN DANCING;LEFT HAND TELEPHONE RECEIVER;TELEPHONE RECEIVER WITH PAGE
RIGHT HAND TELEPHONE RECEIVER;WHITE TOUCHTONE TELEPHONE;BLACK TOUCHTONE TELEPHONE
TELEPHONE ON TOP OF MODEM;CLAMSHELL MOBILE PHONE;BACK OF ENVELOPE;STAMPED ENVELOPE
ENVELOPE WITH LIGHTNING;FLYING ENVELOPE;PEN OVER STAMPED ENVELOPE;LINKED PAPERCLIPS;BLACK PUSHPIN
LOWER LEFT PENCIL;LOWER LEFT BALLPOINT PEN;LOWER LEFT FOUNTAIN PEN;LOWER LEFT PAINTBRUSH
LOWER LEFT CRAYON;LEFT WRITING HAND;TURNED OK HAND SIGN;RAISED HAND WITH FINGERS SPLAYED
REVERSED RAISED HAND WITH FINGERS SPLAYED;REVERSED THUMBS UP SIGN;REVERSED THUMBS DOWN SIGN
REVERSED VICTORY HAND;REVERSED HAND WITH MIDDLE FINGER EXTENDED
RAISED HAND WITH PART BETWEEN MIDDLE AND RING FINGERS;WHITE DOWN POINTING LEFT HAND INDEX
SIDEWAYS WHITE LEFT POINTING INDEX;SIDEWAYS WHITE RIGHT POINTING INDEX
SIDEWAYS BLACK LEFT POINTING INDEX;SIDEWAYS BLACK RIGHT POINTING INDEX
BLACK LEFT POINTING BACKHAND INDEX;BLACK RIGHT POINTING BACKHAND INDEX
SIDEWAYS WHITE UP POINTING INDEX;SIDEWAYS WHITE DOWN POINTING INDEX
SIDEWAYS BLACK UP POINTING INDEX;SIDEWAYS BLACK DOWN POINTING INDEX
BLACK UP POINTING BACKHAND INDEX;BLACK DOWN POINTING BACKHAND INDEX;BLACK HEART;DESKTOP COMPUTER
KEYBOARD AND MOUSE;THREE NETWORKED COMPUTERS;PRINTER;POCKET CALCULATOR
BLACK HARD SHELL FLOPPY DISK;WHITE HARD SHELL FLOPPY DISK;SOFT SHELL FLOPPY DISK;TAPE CARTRIDGE
WIRED KEYBOARD;ONE BUTTON MOUSE;TWO BUTTON MOUSE;THREE BUTTON MOUSE;TRACKBALL
OLD PERSONAL COMPUTER;HARD DISK;SCREEN;PRINTER ICON;FAX ICON;OPTICAL DISC ICON;DOCUMENT WITH TEXT
DOCUMENT WITH TEXT AND PICTURE;DOCUMENT WITH PICTURE;FRAME WITH PICTURE;FRAME WITH TILES
FRAME WITH AN X;BLACK FOLDER;FOLDER;OPEN FOLDER;CARD INDEX DIVIDERS;CARD FILE BOX;FILE CABINET
EMPTY NOTE;EMPTY NOTE PAGE;EMPTY NOTE PAD;NOTE;NOTE PAGE;NOTE PAD;EMPTY DOCUMENT;EMPTY PAGE
EMPTY PAGES;DOCUMENT;PAGE;PAGES;WASTEBASKET;SPIRAL NOTE PAD;SPIRAL CALENDAR PAD;DESKTOP WINDOW
MINIMIZE;MAXIMIZE;OVERLAP;CLOCKWISE RIGHT AND LEFT SEMICIRCLE ARROWS;CANCELLATION X
INCREASE FONT SIZE SYMBOL;DECREASE FONT SIZE SYMBOL;COMPRESSION;OLD KEY;ROLLED-UP NEWSPAPER
PAGE WITH CIRCLED TEXT;STOCK CHART;DAGGER KNIFE;LIPS;SPEAKING HEAD IN SILHOUETTE;THREE RAYS ABOVE
THREE RAYS BELOW;THREE RAYS LEFT;THREE RAYS RIGHT;LEFT SPEECH BUBBLE;RIGHT SPEECH BUBBLE
TWO SPEECH BUBBLES;THREE SPEECH BUBBLES;LEFT THOUGHT BUBBLE;RIGHT THOUGHT BUBBLE
LEFT ANGER BUBBLE;RIGHT ANGER BUBBLE;MOOD BUBBLE;LIGHTNING MOOD BUBBLE;LIGHTNING MOOD
BALLOT BOX WITH BALLOT;BALLOT SCRIPT X;BALLOT BOX WITH SCRIPT X;BALLOT BOLD SCRIPT X
BALLOT BOX WITH BOLD SCRIPT X;LIGHT CHECK MARK;BALLOT BOX WITH BOLD CHECK;WORLD MAP;MOUNT FUJI
TOKYO TOWER;STATUE OF LIBERTY;SILHOUETTE OF JAPAN;MOYAI;GRINNING FACE
GRINNING FACE WITH SMILING EYES;FACE WITH TEARS OF JOY;SMILING FACE WITH OPEN MOUTH
SMILING FACE WITH OPEN MOUTH AND SMILING EYES;SMILING FACE WITH OPEN MOUTH AND COLD SWEAT
SMILING FACE WITH OPEN MOUTH AND TIGHTLY-CLOSED EYES;SMILING FACE WITH HALO
SMILING FACE WITH HORNS;WINKING FACE;SMILING FACE WITH SMILING EYES;FACE SAVOURING DELICIOUS FOOD
RELIEVED FACE;SMILING FACE WITH HEART-SHAPED EYES;SMILING FACE WITH SUNGLASSES;SMIRKING FACE
NEUTRAL FACE;EXPRESSIONLESS FACE;UNAMUSED FACE;FACE WITH COLD SWEAT;PENSIVE FACE;CONFUSED FACE
CONFOUNDED FACE;KISSING FACE;FACE THROWING A KISS;KISSING FACE WITH SMILING EYES
KISSING FACE WITH CLOSED EYES;FACE WITH STUCK-OUT TONGUE
FACE WITH STUCK-OUT TONGUE AND WINKING EYE;FACE WITH STUCK-OUT TONGUE AND TIGHTLY-CLOSED EYES
DISAPPOINTED FACE;WORRIED FACE;ANGRY FACE;POUTING FACE;CRYING FACE;PERSEVERING FACE
FACE WITH LOOK OF TRIUMPH;DISAPPOINTED BUT RELIEVED FACE;FROWNING FACE WITH OPEN MOUTH
ANGUISHED FACE;FEARFUL FACE;WEARY FACE;SLEEPY FACE;TIRED FACE;GRIMACING FACE;LOUDLY CRYING FACE
FACE WITH OPEN MOUTH;HUSHED FACE;FACE WITH OPEN MOUTH AND COLD SWEAT;FACE SCREAMING IN FEAR
ASTONISHED FACE;FLUSHED FACE;SLEEPING FACE;DIZZY FACE;FACE WITHOUT MOUTH;FACE WITH MEDICAL MASK
GRINNING CAT FACE WITH SMILING EYES;CAT FACE WITH TEARS OF JOY;SMILING CAT FACE WITH OPEN MOUTH
SMILING CAT FACE WITH HEART-SHAPED EYES;CAT FACE WITH WRY SMILE;KISSING CAT FACE WITH CLOSED EYES
POUTING CAT FACE;CRYING CAT FACE;WEARY CAT FACE;SLIGHTLY FROWNING FACE;SLIGHTLY SMILING FACE
UPSIDE-DOWN FACE;FACE WITH ROLLING EYES;FACE WITH NO GOOD GESTURE;FACE WITH OK GESTURE
PERSON BOWING DEEPLY;SEE-NO-EVIL MONKEY;HEAR-NO-EVIL MONKEY;SPEAK-NO-EVIL MONKEY
HAPPY PERSON RAISING ONE HAND;PERSON RAISING BOTH HANDS IN CELEBRATION;PERSON FROWNING
PERSON WITH POUTING FACE;PERSON WITH FOLDED HANDS;NORTH WEST POINTING LEAF
SOUTH WEST POINTING LEAF;NORTH EAST POINTING LEAF;SOUTH EAST POINTING LEAF
TURNED NORTH WEST POINTING LEAF;TURNED SOUTH WEST POINTING LEAF;TURNED NORTH EAST POINTING LEAF
TURNED SOUTH EAST POINTING LEAF;NORTH WEST POINTING VINE LEAF;SOUTH WEST POINTING VINE LEAF
NORTH EAST POINTING VINE LEAF;SOUTH EAST POINTING VINE LEAF;HEAVY NORTH WEST POINTING VINE LEAF
HEAVY SOUTH WEST POINTING VINE LEAF;HEAVY NORTH EAST POINTING VINE LEAF
HEAVY SOUTH EAST POINTING VINE LEAF;NORTH WEST POINTING BUD;SOUTH WEST POINTING BUD
NORTH EAST POINTING BUD;SOUTH EAST POINTING BUD;HEAVY NORTH WEST POINTING BUD
HEAVY SOUTH WEST POINTING BUD;HEAVY NORTH EAST POINTING BUD;HEAVY SOUTH EAST POINTING BUD
HOLLOW QUILT SQUARE ORNAMENT;HOLLOW QUILT SQUARE ORNAMENT IN BLACK SQUARE
SOLID QUILT SQUARE ORNAMENT;SOLID QUILT SQUARE ORNAMENT IN BLACK SQUARE;LEFTWARDS ROCKET
UPWARDS ROCKET;RIGHTWARDS ROCKET;DOWNWARDS ROCKET;SCRIPT LIGATURE ET ORNAMENT
HEAVY SCRIPT LIGATURE ET ORNAMENT;LIGATURE OPEN ET ORNAMENT;HEAVY LIGATURE OPEN ET ORNAMENT
HEAVY AMPERSAND ORNAMENT;SWASH AMPERSAND ORNAMENT
SANS-SERIF HEAVY DOUBLE TURNED COMMA QUOTATION MARK ORNAMENT
SANS-SERIF HEAVY DOUBLE COMMA QUOTATION MARK ORNAMENT
SANS-SERIF HEAVY LOW DOUBLE COMMA QUOTATION MARK ORNAMENT;HEAVY INTERROBANG ORNAMENT
SANS-SERIF INTERROBANG ORNAMENT;HEAVY SANS-SERIF INTERROBANG ORNAMENT;VERY HEAVY SOLIDUS
VERY HEAVY REVERSE SOLIDUS;CHECKER BOARD;REVERSE CHECKER BOARD;ROCKET;HELICOPTER;STEAM LOCOMOTIVE
RAILWAY CAR;HIGH-SPEED TRAIN;HIGH-SPEED TRAIN WITH BULLET NOSE;TRAIN;METRO;LIGHT RAIL;STATION
TRAM;TRAM CAR;BUS;ONCOMING BUS;TROLLEYBUS;BUS STOP;MINIBUS;AMBULANCE;FIRE ENGINE;POLICE CAR
ONCOMING POLICE CAR;TAXI;ONCOMING TAXI;AUTOMOBILE;ONCOMING AUTOMOBILE;RECREATIONAL VEHICLE
DELIVERY TRUCK;ARTICULATED LORRY;TRACTOR;MONORAIL;MOUNTAIN RAILWAY;SUSPENSION RAILWAY
MOUNTAIN CABLEWAY;AERIAL TRAMWAY;SHIP;ROWBOAT;SPEEDBOAT;HORIZONTAL TRAFFIC LIGHT
VERTICAL TRAFFIC LIGHT;CONSTRUCTION SIGN;POLICE CARS REVOLVING LIGHT;TRIANGULAR FLAG ON POST;DOOR
NO ENTRY SIGN;SMOKING SYMBOL;NO SMOKING SYMBOL;PUT LITTER IN ITS PLACE SYMBOL
DO NOT LITTER SYMBOL;POTABLE WATER SYMBOL;NON-POTABLE WATER SYMBOL;BICYCLE;NO BICYCLES;BICYCLIST
MOUNTAIN BICYCLIST;PEDESTRIAN;NO PEDESTRIANS;CHILDREN CROSSING;MENS SYMBOL;WOMENS SYMBOL;RESTROOM
BABY SYMBOL;TOILET;WATER CLOSET;SHOWER;BATH;BATHTUB;PASSPORT CONTROL;CUSTOMS;BAGGAGE CLAIM
LEFT LUGGAGE;TRIANGLE WITH ROUNDED CORNERS;PROHIBITED SIGN;CIRCLED INFORMATION SOURCE;BOYS SYMBOL
GIRLS SYMBOL;COUCH AND LAMP;SLEEPING ACCOMMODATION;SHOPPING BAGS;BELLHOP BELL;BED
PLACE OF WORSHIP;OCTAGONAL SIGN;SHOPPING TROLLEY;STUPA;PAGODA;HINDU TEMPLE;HUT;ELEVATOR"),
  (0x1f6dd, "PLAYGROUND SLIDE;WHEEL;RING BUOY;HAMMER AND WRENCH;SHIELD;OIL DRUM;MOTORWAY
RAILWAY TRACK;MOTOR BOAT;UP-POINTING MILITARY AIRPLANE;UP-POINTING AIRPLANE
UP-POINTING SMALL AIRPLANE;SMALL AIRPLANE;NORTHEAST-POINTING AIRPLANE;AIRPLANE DEPARTURE
AIRPLANE ARRIVING"),
  (0x1f6f0, "SATELLITE;ONCOMING FIRE ENGINE;DIESEL LOCOMOTIVE;PASSENGER SHIP;SCOOTER
MOTOR SCOOTER;CANOE;SLED;FLYING SAUCER;SKATEBOARD;AUTO RICKSHAW;PICKUP TRUCK;ROLLER SKATE"),
  (0x1f700, "ALCHEMICAL SYMBOL FOR QUINTESSENCE;ALCHEMICAL SYMBOL FOR AIR
ALCHEMICAL SYMBOL FOR FIRE;ALCHEMICAL SYMBOL FOR EARTH;ALCHEMICAL SYMBOL FOR WATER
ALCHEMICAL SYMBOL FOR AQUAFORTIS;ALCHEMICAL SYMBOL FOR AQUA REGIA
ALCHEMICAL SYMBOL FOR AQUA REGIA-2;ALCHEMICAL SYMBOL FOR AQUA VITAE
ALCHEMICAL SYMBOL FOR AQUA VITAE-2;ALCHEMICAL SYMBOL FOR VINEGAR;ALCHEMICAL SYMBOL FOR VINEGAR-2
ALCHEMICAL SYMBOL FOR VINEGAR-3;ALCHEMICAL SYMBOL FOR SULFUR
ALCHEMICAL SYMBOL FOR PHILOSOPHERS SULFUR;ALCHEMICAL SYMBOL FOR BLACK SULFUR
ALCHEMICAL SYMBOL FOR MERCURY SUBLIMATE;ALCHEMICAL SYMBOL FOR MERCURY SUBLIMATE-2
ALCHEMICAL SYMBOL FOR MERCURY SUBLIMATE-3;ALCHEMICAL SYMBOL FOR CINNABAR
ALCHEMICAL SYMBOL FOR SALT;ALCHEMICAL SYMBOL FOR NITRE;ALCHEMICAL SYMBOL FOR VITRIOL
ALCHEMICAL SYMBOL FOR VITRIOL-2;ALCHEMICAL SYMBOL FOR ROCK SALT;ALCHEMICAL SYMBOL FOR ROCK SALT-2
ALCHEMICAL SYMBOL FOR GOLD;ALCHEMICAL SYMBOL FOR SILVER;ALCHEMICAL SYMBOL FOR IRON ORE
ALCHEMICAL SYMBOL FOR IRON ORE-2;ALCHEMICAL SYMBOL FOR CROCUS OF IRON
ALCHEMICAL SYMBOL FOR REGULUS OF IRON;ALCHEMICAL SYMBOL FOR COPPER ORE
ALCHEMICAL SYMBOL FOR IRON-COPPER ORE;ALCHEMICAL SYMBOL FOR SUBLIMATE OF COPPER
ALCHEMICAL SYMBOL FOR CROCUS OF COPPER;ALCHEMICAL SYMBOL FOR CROCUS OF COPPER-2
ALCHEMICAL SYMBOL FOR COPPER ANTIMONIATE;ALCHEMICAL SYMBOL FOR SALT OF COPPER ANTIMONIATE
ALCHEMICAL SYMBOL FOR SUBLIMATE OF SALT OF COPPER;ALCHEMICAL SYMBOL FOR VERDIGRIS
ALCHEMICAL SYMBOL FOR TIN ORE;ALCHEMICAL SYMBOL FOR LEAD ORE;ALCHEMICAL SYMBOL FOR ANTIMONY ORE
ALCHEMICAL SYMBOL FOR SUBLIMATE OF ANTIMONY;ALCHEMICAL SYMBOL FOR SALT OF ANTIMONY
ALCHEMICAL SYMBOL FOR SUBLIMATE OF SALT OF ANTIMONY;ALCHEMICAL SYMBOL FOR VINEGAR OF ANTIMONY
ALCHEMICAL SYMBOL FOR REGULUS OF ANTIMONY;ALCHEMICAL SYMBOL FOR REGULUS OF ANTIMONY-2
ALCHEMICAL SYMBOL FOR REGULUS;ALCHEMICAL SYMBOL FOR REGULUS-2;ALCHEMICAL SYMBOL FOR REGULUS-3
ALCHEMICAL SYMBOL FOR REGULUS-4;ALCHEMICAL SYMBOL FOR ALKALI;ALCHEMICAL SYMBOL FOR ALKALI-2
ALCHEMICAL SYMBOL FOR MARCASITE;ALCHEMICAL SYMBOL FOR SAL-AMMONIAC;ALCHEMICAL SYMBOL FOR ARSENIC
ALCHEMICAL SYMBOL FOR REALGAR;ALCHEMICAL SYMBOL FOR REALGAR-2;ALCHEMICAL SYMBOL FOR AURIPIGMENT
ALCHEMICAL SYMBOL FOR BISMUTH ORE;ALCHEMICAL SYMBOL FOR TARTAR;ALCHEMICAL SYMBOL FOR TARTAR-2
ALCHEMICAL SYMBOL FOR QUICK LIME;ALCHEMICAL SYMBOL FOR BORAX;ALCHEMICAL SYMBOL FOR BORAX-2
ALCHEMICAL SYMBOL FOR BORAX-3;ALCHEMICAL SYMBOL FOR ALUM;ALCHEMICAL SYMBOL FOR OIL
ALCHEMICAL SYMBOL FOR SPIRIT;ALCHEMICAL SYMBOL FOR TINCTURE;ALCHEMICAL SYMBOL FOR GUM
ALCHEMICAL SYMBOL FOR WAX;ALCHEMICAL SYMBOL FOR POWDER;ALCHEMICAL SYMBOL FOR CALX
ALCHEMICAL SYMBOL FOR TUTTY;ALCHEMICAL SYMBOL FOR CAPUT MORTUUM
ALCHEMICAL SYMBOL FOR SCEPTER OF JOVE;ALCHEMICAL SYMBOL FOR CADUCEUS
ALCHEMICAL SYMBOL FOR TRIDENT;ALCHEMICAL SYMBOL FOR STARRED TRIDENT
ALCHEMICAL SYMBOL FOR LODESTONE;ALCHEMICAL SYMBOL FOR SOAP;ALCHEMICAL SYMBOL FOR URINE
ALCHEMICAL SYMBOL FOR HORSE DUNG;ALCHEMICAL SYMBOL FOR ASHES;ALCHEMICAL SYMBOL FOR POT ASHES
ALCHEMICAL SYMBOL FOR BRICK;ALCHEMICAL SYMBOL FOR POWDERED BRICK;ALCHEMICAL SYMBOL FOR AMALGAM
ALCHEMICAL SYMBOL FOR STRATUM SUPER STRATUM;ALCHEMICAL SYMBOL FOR STRATUM SUPER STRATUM-2
ALCHEMICAL SYMBOL FOR SUBLIMATION;ALCHEMICAL SYMBOL FOR PRECIPITATE;ALCHEMICAL SYMBOL FOR DISTILL
ALCHEMICAL SYMBOL FOR DISSOLVE;ALCHEMICAL SYMBOL FOR DISSOLVE-2;ALCHEMICAL SYMBOL FOR PURIFY
ALCHEMICAL SYMBOL FOR PUTREFACTION;ALCHEMICAL SYMBOL FOR CRUCIBLE
ALCHEMICAL SYMBOL FOR CRUCIBLE-2;ALCHEMICAL SYMBOL FOR CRUCIBLE-3
ALCHEMICAL SYMBOL FOR CRUCIBLE-4;ALCHEMICAL SYMBOL FOR CRUCIBLE-5;ALCHEMICAL SYMBOL FOR ALEMBIC
ALCHEMICAL SYMBOL FOR BATH OF MARY;ALCHEMICAL SYMBOL FOR BATH OF VAPOURS
ALCHEMICAL SYMBOL FOR RETORT;ALCHEMICAL SYMBOL FOR HOUR;ALCHEMICAL SYMBOL FOR NIGHT
ALCHEMICAL SYMBOL FOR DAY-NIGHT;ALCHEMICAL SYMBOL FOR MONTH;ALCHEMICAL SYMBOL FOR HALF DRAM
ALCHEMICAL SYMBOL FOR HALF OUNCE")]

end UrlRouting.Text
