import Frontend.Token.CharacterName.Run

/-!
# Names of graphic symbols

The names of technical symbols, lines, blocks, shapes and ornaments.
-/

namespace Frontend.CharacterName

/-- The runs of these names, in the order of the code points. -/
def graphic : List Run := [
  ⟨0x2300, "", [
    "DIAMETER SIGN;ELECTRIC ARROW;HOUSE;UP ARROWHEAD;DOWN ARROWHEAD;PROJECTIVE;PERSPECTIVE",
    "WAVY LINE;LEFT CEILING;RIGHT CEILING;LEFT FLOOR;RIGHT FLOOR;BOTTOM RIGHT CROP",
    "BOTTOM LEFT CROP;TOP RIGHT CROP;TOP LEFT CROP;REVERSED NOT SIGN;SQUARE LOZENGE;ARC;SEGMENT",
    "SECTOR;TELEPHONE RECORDER;POSITION INDICATOR;VIEWDATA SQUARE;PLACE OF INTEREST SIGN",
    "TURNED NOT SIGN;WATCH;HOURGLASS;TOP LEFT CORNER;TOP RIGHT CORNER;BOTTOM LEFT CORNER",
    "BOTTOM RIGHT CORNER;TOP HALF INTEGRAL;BOTTOM HALF INTEGRAL;FROWN;SMILE",
    "UP ARROWHEAD BETWEEN TWO HORIZONTAL BARS;OPTION KEY;ERASE TO THE RIGHT",
    "X IN A RECTANGLE BOX;KEYBOARD;LEFT-POINTING ANGLE BRACKET;RIGHT-POINTING ANGLE BRACKET",
    "ERASE TO THE LEFT;BENZENE RING;CYLINDRICITY;ALL AROUND-PROFILE;SYMMETRY;TOTAL RUNOUT",
    "DIMENSION ORIGIN;CONICAL TAPER;SLOPE;COUNTERBORE;COUNTERSINK"]⟩,
  ⟨0x2336, "APL FUNCTIONAL SYMBOL ", [
    "I-BEAM;SQUISH QUAD;QUAD EQUAL;QUAD DIVIDE;QUAD DIAMOND;QUAD JOT;QUAD CIRCLE;CIRCLE STILE",
    "CIRCLE JOT;SLASH BAR;BACKSLASH BAR;QUAD SLASH;QUAD BACKSLASH;QUAD LESS-THAN",
    "QUAD GREATER-THAN;LEFTWARDS VANE;RIGHTWARDS VANE;QUAD LEFTWARDS ARROW",
    "QUAD RIGHTWARDS ARROW;CIRCLE BACKSLASH;DOWN TACK UNDERBAR;DELTA STILE;QUAD DOWN CARET",
    "QUAD DELTA;DOWN TACK JOT;UPWARDS VANE;QUAD UPWARDS ARROW;UP TACK OVERBAR;DEL STILE",
    "QUAD UP CARET;QUAD DEL;UP TACK JOT;DOWNWARDS VANE;QUAD DOWNWARDS ARROW;QUOTE UNDERBAR",
    "DELTA UNDERBAR;DIAMOND UNDERBAR;JOT UNDERBAR;CIRCLE UNDERBAR;UP SHOE JOT;QUOTE QUAD",
    "CIRCLE STAR;QUAD COLON;UP TACK DIAERESIS;DEL DIAERESIS;STAR DIAERESIS;JOT DIAERESIS",
    "CIRCLE DIAERESIS;DOWN SHOE STILE;LEFT SHOE STILE;TILDE DIAERESIS;GREATER-THAN DIAERESIS",
    "COMMA BAR;DEL TILDE;ZILDE;STILE TILDE;SEMICOLON UNDERBAR;QUAD NOT EQUAL;QUAD QUESTION",
    "DOWN CARET TILDE;UP CARET TILDE;IOTA;RHO;OMEGA;ALPHA UNDERBAR;EPSILON UNDERBAR",
    "IOTA UNDERBAR;OMEGA UNDERBAR;ALPHA"]⟩,
  ⟨0x237B, "", [
    "NOT CHECK MARK;RIGHT ANGLE WITH DOWNWARDS ZIGZAG ARROW;SHOULDERED OPEN BOX;BELL SYMBOL",
    "VERTICAL LINE WITH MIDDLE DOT;INSERTION SYMBOL;CONTINUOUS UNDERLINE SYMBOL",
    "DISCONTINUOUS UNDERLINE SYMBOL;EMPHASIS SYMBOL;COMPOSITION SYMBOL",
    "WHITE SQUARE WITH CENTRE VERTICAL LINE;ENTER SYMBOL;ALTERNATIVE KEY SYMBOL;HELM SYMBOL",
    "CIRCLED HORIZONTAL BAR WITH NOTCH;CIRCLED TRIANGLE DOWN;BROKEN CIRCLE WITH NORTHWEST ARROW",
    "UNDO SYMBOL;MONOSTABLE SYMBOL;HYSTERESIS SYMBOL;OPEN-CIRCUIT-OUTPUT H-TYPE SYMBOL",
    "OPEN-CIRCUIT-OUTPUT L-TYPE SYMBOL;PASSIVE-PULL-DOWN-OUTPUT SYMBOL",
    "PASSIVE-PULL-UP-OUTPUT SYMBOL;DIRECT CURRENT SYMBOL FORM TWO;SOFTWARE-FUNCTION SYMBOL",
    "APL FUNCTIONAL SYMBOL QUAD;DECIMAL SEPARATOR KEY SYMBOL;PREVIOUS PAGE;NEXT PAGE",
    "PRINT SCREEN SYMBOL;CLEAR SCREEN SYMBOL;LEFT PARENTHESIS UPPER HOOK",
    "LEFT PARENTHESIS EXTENSION;LEFT PARENTHESIS LOWER HOOK;RIGHT PARENTHESIS UPPER HOOK",
    "RIGHT PARENTHESIS EXTENSION;RIGHT PARENTHESIS LOWER HOOK;LEFT SQUARE BRACKET UPPER CORNER",
    "LEFT SQUARE BRACKET EXTENSION;LEFT SQUARE BRACKET LOWER CORNER",
    "RIGHT SQUARE BRACKET UPPER CORNER;RIGHT SQUARE BRACKET EXTENSION",
    "RIGHT SQUARE BRACKET LOWER CORNER;LEFT CURLY BRACKET UPPER HOOK",
    "LEFT CURLY BRACKET MIDDLE PIECE;LEFT CURLY BRACKET LOWER HOOK;CURLY BRACKET EXTENSION",
    "RIGHT CURLY BRACKET UPPER HOOK;RIGHT CURLY BRACKET MIDDLE PIECE",
    "RIGHT CURLY BRACKET LOWER HOOK;INTEGRAL EXTENSION;HORIZONTAL LINE EXTENSION",
    "UPPER LEFT OR LOWER RIGHT CURLY BRACKET SECTION",
    "UPPER RIGHT OR LOWER LEFT CURLY BRACKET SECTION;SUMMATION TOP;SUMMATION BOTTOM",
    "TOP SQUARE BRACKET;BOTTOM SQUARE BRACKET;BOTTOM SQUARE BRACKET OVER TOP SQUARE BRACKET",
    "RADICAL SYMBOL BOTTOM;LEFT VERTICAL BOX LINE;RIGHT VERTICAL BOX LINE"]⟩,
  ⟨0x23BA, "HORIZONTAL SCAN LINE-", ["1;3;7;9"]⟩,
  ⟨0x23BE, "DENTISTRY SYMBOL LIGHT ", [
    "VERTICAL AND TOP RIGHT;VERTICAL AND BOTTOM RIGHT;VERTICAL WITH CIRCLE",
    "DOWN AND HORIZONTAL WITH CIRCLE;UP AND HORIZONTAL WITH CIRCLE;VERTICAL WITH TRIANGLE",
    "DOWN AND HORIZONTAL WITH TRIANGLE;UP AND HORIZONTAL WITH TRIANGLE;VERTICAL AND WAVE",
    "DOWN AND HORIZONTAL WITH WAVE;UP AND HORIZONTAL WITH WAVE;DOWN AND HORIZONTAL",
    "UP AND HORIZONTAL;VERTICAL AND TOP LEFT;VERTICAL AND BOTTOM LEFT"]⟩,
  ⟨0x23CD, "", ["SQUARE FOOT;RETURN SYMBOL;EJECT SYMBOL;VERTICAL LINE EXTENSION"]⟩,
  ⟨0x23D1, "METRICAL ", [
    "BREVE;LONG OVER SHORT;SHORT OVER LONG;LONG OVER TWO SHORTS;TWO SHORTS OVER LONG",
    "TWO SHORTS JOINED;TRISEME;TETRASEME;PENTASEME"]⟩,
  ⟨0x23DA, "", [
    "EARTH GROUND;FUSE;TOP PARENTHESIS;BOTTOM PARENTHESIS;TOP CURLY BRACKET",
    "BOTTOM CURLY BRACKET;TOP TORTOISE SHELL BRACKET;BOTTOM TORTOISE SHELL BRACKET",
    "WHITE TRAPEZIUM;BENZENE RING WITH CIRCLE;STRAIGHTNESS;FLATNESS;AC CURRENT",
    "ELECTRICAL INTERSECTION;DECIMAL EXPONENT SYMBOL;BLACK RIGHT-POINTING DOUBLE TRIANGLE",
    "BLACK LEFT-POINTING DOUBLE TRIANGLE;BLACK UP-POINTING DOUBLE TRIANGLE",
    "BLACK DOWN-POINTING DOUBLE TRIANGLE;BLACK RIGHT-POINTING DOUBLE TRIANGLE WITH VERTICAL BAR",
    "BLACK LEFT-POINTING DOUBLE TRIANGLE WITH VERTICAL BAR",
    "BLACK RIGHT-POINTING TRIANGLE WITH DOUBLE VERTICAL BAR;ALARM CLOCK;STOPWATCH;TIMER CLOCK",
    "HOURGLASS WITH FLOWING SAND;BLACK MEDIUM LEFT-POINTING TRIANGLE",
    "BLACK MEDIUM RIGHT-POINTING TRIANGLE;BLACK MEDIUM UP-POINTING TRIANGLE",
    "BLACK MEDIUM DOWN-POINTING TRIANGLE;DOUBLE VERTICAL BAR;BLACK SQUARE FOR STOP",
    "BLACK CIRCLE FOR RECORD;POWER SYMBOL;POWER ON-OFF SYMBOL;POWER ON SYMBOL",
    "POWER SLEEP SYMBOL;OBSERVER EYE SYMBOL"]⟩,
  ⟨0x2500, "BOX DRAWINGS ", [
    "LIGHT HORIZONTAL;HEAVY HORIZONTAL;LIGHT VERTICAL;HEAVY VERTICAL",
    "LIGHT TRIPLE DASH HORIZONTAL;HEAVY TRIPLE DASH HORIZONTAL;LIGHT TRIPLE DASH VERTICAL",
    "HEAVY TRIPLE DASH VERTICAL;LIGHT QUADRUPLE DASH HORIZONTAL;HEAVY QUADRUPLE DASH HORIZONTAL",
    "LIGHT QUADRUPLE DASH VERTICAL;HEAVY QUADRUPLE DASH VERTICAL;LIGHT DOWN AND RIGHT",
    "DOWN LIGHT AND RIGHT HEAVY;DOWN HEAVY AND RIGHT LIGHT;HEAVY DOWN AND RIGHT",
    "LIGHT DOWN AND LEFT;DOWN LIGHT AND LEFT HEAVY;DOWN HEAVY AND LEFT LIGHT",
    "HEAVY DOWN AND LEFT;LIGHT UP AND RIGHT;UP LIGHT AND RIGHT HEAVY;UP HEAVY AND RIGHT LIGHT",
    "HEAVY UP AND RIGHT;LIGHT UP AND LEFT;UP LIGHT AND LEFT HEAVY;UP HEAVY AND LEFT LIGHT",
    "HEAVY UP AND LEFT;LIGHT VERTICAL AND RIGHT;VERTICAL LIGHT AND RIGHT HEAVY",
    "UP HEAVY AND RIGHT DOWN LIGHT;DOWN HEAVY AND RIGHT UP LIGHT;VERTICAL HEAVY AND RIGHT LIGHT",
    "DOWN LIGHT AND RIGHT UP HEAVY;UP LIGHT AND RIGHT DOWN HEAVY;HEAVY VERTICAL AND RIGHT",
    "LIGHT VERTICAL AND LEFT;VERTICAL LIGHT AND LEFT HEAVY;UP HEAVY AND LEFT DOWN LIGHT",
    "DOWN HEAVY AND LEFT UP LIGHT;VERTICAL HEAVY AND LEFT LIGHT;DOWN LIGHT AND LEFT UP HEAVY",
    "UP LIGHT AND LEFT DOWN HEAVY;HEAVY VERTICAL AND LEFT;LIGHT DOWN AND HORIZONTAL",
    "LEFT HEAVY AND RIGHT DOWN LIGHT;RIGHT HEAVY AND LEFT DOWN LIGHT",
    "DOWN LIGHT AND HORIZONTAL HEAVY;DOWN HEAVY AND HORIZONTAL LIGHT",
    "RIGHT LIGHT AND LEFT DOWN HEAVY;LEFT LIGHT AND RIGHT DOWN HEAVY;HEAVY DOWN AND HORIZONTAL",
    "LIGHT UP AND HORIZONTAL;LEFT HEAVY AND RIGHT UP LIGHT;RIGHT HEAVY AND LEFT UP LIGHT",
    "UP LIGHT AND HORIZONTAL HEAVY;UP HEAVY AND HORIZONTAL LIGHT;RIGHT LIGHT AND LEFT UP HEAVY",
    "LEFT LIGHT AND RIGHT UP HEAVY;HEAVY UP AND HORIZONTAL;LIGHT VERTICAL AND HORIZONTAL",
    "LEFT HEAVY AND RIGHT VERTICAL LIGHT;RIGHT HEAVY AND LEFT VERTICAL LIGHT",
    "VERTICAL LIGHT AND HORIZONTAL HEAVY;UP HEAVY AND DOWN HORIZONTAL LIGHT",
    "DOWN HEAVY AND UP HORIZONTAL LIGHT;VERTICAL HEAVY AND HORIZONTAL LIGHT",
    "LEFT UP HEAVY AND RIGHT DOWN LIGHT;RIGHT UP HEAVY AND LEFT DOWN LIGHT",
    "LEFT DOWN HEAVY AND RIGHT UP LIGHT;RIGHT DOWN HEAVY AND LEFT UP LIGHT",
    "DOWN LIGHT AND UP HORIZONTAL HEAVY;UP LIGHT AND DOWN HORIZONTAL HEAVY",
    "RIGHT LIGHT AND LEFT VERTICAL HEAVY;LEFT LIGHT AND RIGHT VERTICAL HEAVY",
    "HEAVY VERTICAL AND HORIZONTAL;LIGHT DOUBLE DASH HORIZONTAL;HEAVY DOUBLE DASH HORIZONTAL",
    "LIGHT DOUBLE DASH VERTICAL;HEAVY DOUBLE DASH VERTICAL;DOUBLE HORIZONTAL;DOUBLE VERTICAL",
    "DOWN SINGLE AND RIGHT DOUBLE;DOWN DOUBLE AND RIGHT SINGLE;DOUBLE DOWN AND RIGHT",
    "DOWN SINGLE AND LEFT DOUBLE;DOWN DOUBLE AND LEFT SINGLE;DOUBLE DOWN AND LEFT",
    "UP SINGLE AND RIGHT DOUBLE;UP DOUBLE AND RIGHT SINGLE;DOUBLE UP AND RIGHT",
    "UP SINGLE AND LEFT DOUBLE;UP DOUBLE AND LEFT SINGLE;DOUBLE UP AND LEFT",
    "VERTICAL SINGLE AND RIGHT DOUBLE;VERTICAL DOUBLE AND RIGHT SINGLE",
    "DOUBLE VERTICAL AND RIGHT;VERTICAL SINGLE AND LEFT DOUBLE;VERTICAL DOUBLE AND LEFT SINGLE",
    "DOUBLE VERTICAL AND LEFT;DOWN SINGLE AND HORIZONTAL DOUBLE",
    "DOWN DOUBLE AND HORIZONTAL SINGLE;DOUBLE DOWN AND HORIZONTAL",
    "UP SINGLE AND HORIZONTAL DOUBLE;UP DOUBLE AND HORIZONTAL SINGLE;DOUBLE UP AND HORIZONTAL",
    "VERTICAL SINGLE AND HORIZONTAL DOUBLE;VERTICAL DOUBLE AND HORIZONTAL SINGLE",
    "DOUBLE VERTICAL AND HORIZONTAL;LIGHT ARC DOWN AND RIGHT;LIGHT ARC DOWN AND LEFT",
    "LIGHT ARC UP AND LEFT;LIGHT ARC UP AND RIGHT;LIGHT DIAGONAL UPPER RIGHT TO LOWER LEFT",
    "LIGHT DIAGONAL UPPER LEFT TO LOWER RIGHT;LIGHT DIAGONAL CROSS;LIGHT LEFT;LIGHT UP",
    "LIGHT RIGHT;LIGHT DOWN;HEAVY LEFT;HEAVY UP;HEAVY RIGHT;HEAVY DOWN",
    "LIGHT LEFT AND HEAVY RIGHT;LIGHT UP AND HEAVY DOWN;HEAVY LEFT AND LIGHT RIGHT",
    "HEAVY UP AND LIGHT DOWN"]⟩,
  ⟨0x2580, "", [
    "UPPER HALF BLOCK;LOWER ONE EIGHTH BLOCK;LOWER ONE QUARTER BLOCK;LOWER THREE EIGHTHS BLOCK",
    "LOWER HALF BLOCK;LOWER FIVE EIGHTHS BLOCK;LOWER THREE QUARTERS BLOCK",
    "LOWER SEVEN EIGHTHS BLOCK;FULL BLOCK;LEFT SEVEN EIGHTHS BLOCK;LEFT THREE QUARTERS BLOCK",
    "LEFT FIVE EIGHTHS BLOCK;LEFT HALF BLOCK;LEFT THREE EIGHTHS BLOCK;LEFT ONE QUARTER BLOCK",
    "LEFT ONE EIGHTH BLOCK;RIGHT HALF BLOCK;LIGHT SHADE;MEDIUM SHADE;DARK SHADE",
    "UPPER ONE EIGHTH BLOCK;RIGHT ONE EIGHTH BLOCK;QUADRANT LOWER LEFT;QUADRANT LOWER RIGHT"]⟩,
  ⟨0x2598, "QUADRANT UPPER ", [
    "LEFT;LEFT AND LOWER LEFT AND LOWER RIGHT;LEFT AND LOWER RIGHT",
    "LEFT AND UPPER RIGHT AND LOWER LEFT;LEFT AND UPPER RIGHT AND LOWER RIGHT;RIGHT",
    "RIGHT AND LOWER LEFT;RIGHT AND LOWER LEFT AND LOWER RIGHT"]⟩,
  ⟨0x25A0, "", [
    "BLACK SQUARE;WHITE SQUARE;WHITE SQUARE WITH ROUNDED CORNERS",
    "WHITE SQUARE CONTAINING BLACK SMALL SQUARE;SQUARE WITH HORIZONTAL FILL",
    "SQUARE WITH VERTICAL FILL;SQUARE WITH ORTHOGONAL CROSSHATCH FILL",
    "SQUARE WITH UPPER LEFT TO LOWER RIGHT FILL;SQUARE WITH UPPER RIGHT TO LOWER LEFT FILL",
    "SQUARE WITH DIAGONAL CROSSHATCH FILL;BLACK SMALL SQUARE;WHITE SMALL SQUARE;BLACK RECTANGLE",
    "WHITE RECTANGLE;BLACK VERTICAL RECTANGLE;WHITE VERTICAL RECTANGLE;BLACK PARALLELOGRAM",
    "WHITE PARALLELOGRAM;BLACK UP-POINTING TRIANGLE;WHITE UP-POINTING TRIANGLE",
    "BLACK UP-POINTING SMALL TRIANGLE;WHITE UP-POINTING SMALL TRIANGLE",
    "BLACK RIGHT-POINTING TRIANGLE;WHITE RIGHT-POINTING TRIANGLE",
    "BLACK RIGHT-POINTING SMALL TRIANGLE;WHITE RIGHT-POINTING SMALL TRIANGLE",
    "BLACK RIGHT-POINTING POINTER;WHITE RIGHT-POINTING POINTER;BLACK DOWN-POINTING TRIANGLE",
    "WHITE DOWN-POINTING TRIANGLE;BLACK DOWN-POINTING SMALL TRIANGLE",
    "WHITE DOWN-POINTING SMALL TRIANGLE;BLACK LEFT-POINTING TRIANGLE",
    "WHITE LEFT-POINTING TRIANGLE;BLACK LEFT-POINTING SMALL TRIANGLE",
    "WHITE LEFT-POINTING SMALL TRIANGLE;BLACK LEFT-POINTING POINTER;WHITE LEFT-POINTING POINTER",
    "BLACK DIAMOND;WHITE DIAMOND;WHITE DIAMOND CONTAINING BLACK SMALL DIAMOND;FISHEYE;LOZENGE",
    "WHITE CIRCLE;DOTTED CIRCLE;CIRCLE WITH VERTICAL FILL;BULLSEYE;BLACK CIRCLE",
    "CIRCLE WITH LEFT HALF BLACK;CIRCLE WITH RIGHT HALF BLACK;CIRCLE WITH LOWER HALF BLACK",
    "CIRCLE WITH UPPER HALF BLACK;CIRCLE WITH UPPER RIGHT QUADRANT BLACK",
    "CIRCLE WITH ALL BUT UPPER LEFT QUADRANT BLACK;LEFT HALF BLACK CIRCLE",
    "RIGHT HALF BLACK CIRCLE;INVERSE BULLET;INVERSE WHITE CIRCLE",
    "UPPER HALF INVERSE WHITE CIRCLE;LOWER HALF INVERSE WHITE CIRCLE",
    "UPPER LEFT QUADRANT CIRCULAR ARC;UPPER RIGHT QUADRANT CIRCULAR ARC",
    "LOWER RIGHT QUADRANT CIRCULAR ARC;LOWER LEFT QUADRANT CIRCULAR ARC;UPPER HALF CIRCLE",
    "LOWER HALF CIRCLE;BLACK LOWER RIGHT TRIANGLE;BLACK LOWER LEFT TRIANGLE",
    "BLACK UPPER LEFT TRIANGLE;BLACK UPPER RIGHT TRIANGLE;WHITE BULLET",
    "SQUARE WITH LEFT HALF BLACK;SQUARE WITH RIGHT HALF BLACK",
    "SQUARE WITH UPPER LEFT DIAGONAL HALF BLACK;SQUARE WITH LOWER RIGHT DIAGONAL HALF BLACK",
    "WHITE SQUARE WITH VERTICAL BISECTING LINE;WHITE UP-POINTING TRIANGLE WITH DOT",
    "UP-POINTING TRIANGLE WITH LEFT HALF BLACK;UP-POINTING TRIANGLE WITH RIGHT HALF BLACK",
    "LARGE CIRCLE"]⟩,
  ⟨0x25F0, "WHITE SQUARE WITH ", [
    "UPPER LEFT QUADRANT;LOWER LEFT QUADRANT;LOWER RIGHT QUADRANT;UPPER RIGHT QUADRANT"]⟩,
  ⟨0x25F4, "WHITE CIRCLE WITH ", [
    "UPPER LEFT QUADRANT;LOWER LEFT QUADRANT;LOWER RIGHT QUADRANT;UPPER RIGHT QUADRANT"]⟩,
  ⟨0x25F8, "", [
    "UPPER LEFT TRIANGLE;UPPER RIGHT TRIANGLE;LOWER LEFT TRIANGLE;WHITE MEDIUM SQUARE",
    "BLACK MEDIUM SQUARE;WHITE MEDIUM SMALL SQUARE;BLACK MEDIUM SMALL SQUARE",
    "LOWER RIGHT TRIANGLE"]⟩,
  ⟨0x2600, "", [
    "BLACK SUN WITH RAYS;CLOUD;UMBRELLA;SNOWMAN;COMET;BLACK STAR;WHITE STAR;LIGHTNING",
    "THUNDERSTORM;SUN;ASCENDING NODE;DESCENDING NODE;CONJUNCTION;OPPOSITION;BLACK TELEPHONE",
    "WHITE TELEPHONE;BALLOT BOX;BALLOT BOX WITH CHECK;BALLOT BOX WITH X;SALTIRE",
    "UMBRELLA WITH RAIN DROPS;HOT BEVERAGE;WHITE SHOGI PIECE;BLACK SHOGI PIECE;SHAMROCK",
    "REVERSED ROTATED FLORAL HEART BULLET;BLACK LEFT POINTING INDEX;BLACK RIGHT POINTING INDEX",
    "WHITE LEFT POINTING INDEX;WHITE UP POINTING INDEX;WHITE RIGHT POINTING INDEX",
    "WHITE DOWN POINTING INDEX;SKULL AND CROSSBONES;CAUTION SIGN;RADIOACTIVE SIGN",
    "BIOHAZARD SIGN;CADUCEUS;ANKH;ORTHODOX CROSS;CHI RHO;CROSS OF LORRAINE;CROSS OF JERUSALEM",
    "STAR AND CRESCENT;FARSI SYMBOL;ADI SHAKTI;HAMMER AND SICKLE;PEACE SYMBOL;YIN YANG"]⟩,
  ⟨0x2630, "TRIGRAM FOR ", ["HEAVEN;LAKE;FIRE;THUNDER;WIND;WATER;MOUNTAIN;EARTH"]⟩,
  ⟨0x2638, "", [
    "WHEEL OF DHARMA;WHITE FROWNING FACE;WHITE SMILING FACE;BLACK SMILING FACE",
    "WHITE SUN WITH RAYS;FIRST QUARTER MOON;LAST QUARTER MOON;MERCURY;FEMALE SIGN;EARTH",
    "MALE SIGN;JUPITER;SATURN;URANUS;NEPTUNE;PLUTO;ARIES;TAURUS;GEMINI;CANCER;LEO;VIRGO;LIBRA",
    "SCORPIUS;SAGITTARIUS;CAPRICORN;AQUARIUS;PISCES"]⟩,
  ⟨0x2654, "WHITE CHESS ", ["KING;QUEEN;ROOK;BISHOP;KNIGHT;PAWN"]⟩,
  ⟨0x265A, "BLACK CHESS ", ["KING;QUEEN;ROOK;BISHOP;KNIGHT;PAWN"]⟩,
  ⟨0x2660, "", [
    "BLACK SPADE SUIT;WHITE HEART SUIT;WHITE DIAMOND SUIT;BLACK CLUB SUIT;WHITE SPADE SUIT",
    "BLACK HEART SUIT;BLACK DIAMOND SUIT;WHITE CLUB SUIT;HOT SPRINGS;QUARTER NOTE;EIGHTH NOTE",
    "BEAMED EIGHTH NOTES;BEAMED SIXTEENTH NOTES;MUSIC FLAT SIGN;MUSIC NATURAL SIGN",
    "MUSIC SHARP SIGN;WEST SYRIAC CROSS;EAST SYRIAC CROSS;UNIVERSAL RECYCLING SYMBOL"]⟩,
  ⟨0x2673, "RECYCLING SYMBOL FOR TYPE-", [
    "1 PLASTICS;2 PLASTICS;3 PLASTICS;4 PLASTICS;5 PLASTICS;6 PLASTICS;7 PLASTICS"]⟩,
  ⟨0x267A, "", [
    "RECYCLING SYMBOL FOR GENERIC MATERIALS;BLACK UNIVERSAL RECYCLING SYMBOL",
    "RECYCLED PAPER SYMBOL;PARTIALLY-RECYCLED PAPER SYMBOL;PERMANENT PAPER SIGN",
    "WHEELCHAIR SYMBOL;DIE FACE-1;DIE FACE-2;DIE FACE-3;DIE FACE-4;DIE FACE-5;DIE FACE-6",
    "WHITE CIRCLE WITH DOT RIGHT;WHITE CIRCLE WITH TWO DOTS;BLACK CIRCLE WITH WHITE DOT RIGHT",
    "BLACK CIRCLE WITH TWO WHITE DOTS;MONOGRAM FOR YANG;MONOGRAM FOR YIN",
    "DIGRAM FOR GREATER YANG;DIGRAM FOR LESSER YIN;DIGRAM FOR LESSER YANG",
    "DIGRAM FOR GREATER YIN;WHITE FLAG;BLACK FLAG;HAMMER AND PICK;ANCHOR;CROSSED SWORDS",
    "STAFF OF AESCULAPIUS;SCALES;ALEMBIC;FLOWER;GEAR;STAFF OF HERMES;ATOM SYMBOL;FLEUR-DE-LIS",
    "OUTLINED WHITE STAR;THREE LINES CONVERGING RIGHT;THREE LINES CONVERGING LEFT;WARNING SIGN",
    "HIGH VOLTAGE SIGN;DOUBLED FEMALE SIGN;DOUBLED MALE SIGN;INTERLOCKED FEMALE AND MALE SIGN",
    "MALE AND FEMALE SIGN;MALE WITH STROKE SIGN;MALE WITH STROKE AND MALE AND FEMALE SIGN",
    "VERTICAL MALE WITH STROKE SIGN;HORIZONTAL MALE WITH STROKE SIGN;MEDIUM WHITE CIRCLE",
    "MEDIUM BLACK CIRCLE;MEDIUM SMALL WHITE CIRCLE;MARRIAGE SYMBOL;DIVORCE SYMBOL",
    "UNMARRIED PARTNERSHIP SYMBOL;COFFIN;FUNERAL URN;NEUTER;CERES;PALLAS;JUNO;VESTA;CHIRON",
    "BLACK MOON LILITH;SEXTILE;SEMISEXTILE;QUINCUNX;SESQUIQUADRATE;SOCCER BALL;BASEBALL",
    "SQUARED KEY;WHITE DRAUGHTS MAN;WHITE DRAUGHTS KING;BLACK DRAUGHTS MAN;BLACK DRAUGHTS KING",
    "SNOWMAN WITHOUT SNOW;SUN BEHIND CLOUD;RAIN;BLACK SNOWMAN;THUNDER CLOUD AND RAIN",
    "TURNED WHITE SHOGI PIECE;TURNED BLACK SHOGI PIECE;WHITE DIAMOND IN SQUARE;CROSSING LANES",
    "DISABLED CAR;OPHIUCHUS;PICK;CAR SLIDING;HELMET WITH WHITE CROSS;CIRCLED CROSSING LANES",
    "CHAINS;NO ENTRY;ALTERNATE ONE-WAY LEFT WAY TRAFFIC;BLACK TWO-WAY LEFT WAY TRAFFIC",
    "WHITE TWO-WAY LEFT WAY TRAFFIC;BLACK LEFT LANE MERGE;WHITE LEFT LANE MERGE;DRIVE SLOW SIGN",
    "HEAVY WHITE DOWN-POINTING TRIANGLE;LEFT CLOSED ENTRY;SQUARED SALTIRE",
    "FALLING DIAGONAL IN WHITE CIRCLE IN BLACK SQUARE;BLACK TRUCK;RESTRICTED LEFT ENTRY-1",
    "RESTRICTED LEFT ENTRY-2;ASTRONOMICAL SYMBOL FOR URANUS",
    "HEAVY CIRCLE WITH STROKE AND TWO DOTS ABOVE;PENTAGRAM;RIGHT-HANDED INTERLACED PENTAGRAM",
    "LEFT-HANDED INTERLACED PENTAGRAM;INVERTED PENTAGRAM;BLACK CROSS ON SHIELD;SHINTO SHRINE",
    "CHURCH;CASTLE;HISTORIC SITE;GEAR WITHOUT HUB;GEAR WITH HANDLES;MAP SYMBOL FOR LIGHTHOUSE",
    "MOUNTAIN;UMBRELLA ON GROUND;FOUNTAIN;FLAG IN HOLE;FERRY;SAILBOAT;SQUARE FOUR CORNERS;SKIER",
    "ICE SKATE;PERSON WITH BALL;TENT;JAPANESE BANK SYMBOL;HEADSTONE GRAVEYARD SYMBOL;FUEL PUMP",
    "CUP ON BLACK SQUARE;WHITE FLAG WITH HORIZONTAL MIDDLE BLACK STRIPE"]⟩,
  ⟨0x2700, "", [
    "BLACK SAFETY SCISSORS;UPPER BLADE SCISSORS;BLACK SCISSORS;LOWER BLADE SCISSORS",
    "WHITE SCISSORS;WHITE HEAVY CHECK MARK;TELEPHONE LOCATION SIGN;TAPE DRIVE;AIRPLANE;ENVELOPE",
    "RAISED FIST;RAISED HAND;VICTORY HAND;WRITING HAND;LOWER RIGHT PENCIL;PENCIL",
    "UPPER RIGHT PENCIL;WHITE NIB;BLACK NIB;CHECK MARK;HEAVY CHECK MARK;MULTIPLICATION X",
    "HEAVY MULTIPLICATION X;BALLOT X;HEAVY BALLOT X;OUTLINED GREEK CROSS;HEAVY GREEK CROSS",
    "OPEN CENTRE CROSS;HEAVY OPEN CENTRE CROSS;LATIN CROSS;SHADOWED WHITE LATIN CROSS",
    "OUTLINED LATIN CROSS;MALTESE CROSS;STAR OF DAVID;FOUR TEARDROP-SPOKED ASTERISK",
    "FOUR BALLOON-SPOKED ASTERISK;HEAVY FOUR BALLOON-SPOKED ASTERISK;FOUR CLUB-SPOKED ASTERISK",
    "BLACK FOUR POINTED STAR;WHITE FOUR POINTED STAR;SPARKLES;STRESS OUTLINED WHITE STAR",
    "CIRCLED WHITE STAR;OPEN CENTRE BLACK STAR;BLACK CENTRE WHITE STAR;OUTLINED BLACK STAR",
    "HEAVY OUTLINED BLACK STAR;PINWHEEL STAR;SHADOWED WHITE STAR;HEAVY ASTERISK",
    "OPEN CENTRE ASTERISK;EIGHT SPOKED ASTERISK;EIGHT POINTED BLACK STAR",
    "EIGHT POINTED PINWHEEL STAR;SIX POINTED BLACK STAR;EIGHT POINTED RECTILINEAR BLACK STAR",
    "HEAVY EIGHT POINTED RECTILINEAR BLACK STAR;TWELVE POINTED BLACK STAR",
    "SIXTEEN POINTED ASTERISK;TEARDROP-SPOKED ASTERISK;OPEN CENTRE TEARDROP-SPOKED ASTERISK",
    "HEAVY TEARDROP-SPOKED ASTERISK;SIX PETALLED BLACK AND WHITE FLORETTE;BLACK FLORETTE",
    "WHITE FLORETTE;EIGHT PETALLED OUTLINED BLACK FLORETTE",
    "CIRCLED OPEN CENTRE EIGHT POINTED STAR;HEAVY TEARDROP-SPOKED PINWHEEL ASTERISK;SNOWFLAKE",
    "TIGHT TRIFOLIATE SNOWFLAKE;HEAVY CHEVRON SNOWFLAKE;SPARKLE;HEAVY SPARKLE",
    "BALLOON-SPOKED ASTERISK;EIGHT TEARDROP-SPOKED PROPELLER ASTERISK",
    "HEAVY EIGHT TEARDROP-SPOKED PROPELLER ASTERISK;CROSS MARK;SHADOWED WHITE CIRCLE",
    "NEGATIVE SQUARED CROSS MARK;LOWER RIGHT DROP-SHADOWED WHITE SQUARE",
    "UPPER RIGHT DROP-SHADOWED WHITE SQUARE;LOWER RIGHT SHADOWED WHITE SQUARE",
    "UPPER RIGHT SHADOWED WHITE SQUARE;BLACK QUESTION MARK ORNAMENT",
    "WHITE QUESTION MARK ORNAMENT;WHITE EXCLAMATION MARK ORNAMENT;BLACK DIAMOND MINUS WHITE X",
    "HEAVY EXCLAMATION MARK SYMBOL;LIGHT VERTICAL BAR;MEDIUM VERTICAL BAR;HEAVY VERTICAL BAR",
    "HEAVY SINGLE TURNED COMMA QUOTATION MARK ORNAMENT",
    "HEAVY SINGLE COMMA QUOTATION MARK ORNAMENT",
    "HEAVY DOUBLE TURNED COMMA QUOTATION MARK ORNAMENT",
    "HEAVY DOUBLE COMMA QUOTATION MARK ORNAMENT;HEAVY LOW SINGLE COMMA QUOTATION MARK ORNAMENT",
    "HEAVY LOW DOUBLE COMMA QUOTATION MARK ORNAMENT;CURVED STEM PARAGRAPH SIGN ORNAMENT",
    "HEAVY EXCLAMATION MARK ORNAMENT;HEAVY HEART EXCLAMATION MARK ORNAMENT;HEAVY BLACK HEART",
    "ROTATED HEAVY BLACK HEART BULLET;FLORAL HEART;ROTATED FLORAL HEART BULLET",
    "MEDIUM LEFT PARENTHESIS ORNAMENT;MEDIUM RIGHT PARENTHESIS ORNAMENT",
    "MEDIUM FLATTENED LEFT PARENTHESIS ORNAMENT;MEDIUM FLATTENED RIGHT PARENTHESIS ORNAMENT",
    "MEDIUM LEFT-POINTING ANGLE BRACKET ORNAMENT;MEDIUM RIGHT-POINTING ANGLE BRACKET ORNAMENT",
    "HEAVY LEFT-POINTING ANGLE QUOTATION MARK ORNAMENT",
    "HEAVY RIGHT-POINTING ANGLE QUOTATION MARK ORNAMENT",
    "HEAVY LEFT-POINTING ANGLE BRACKET ORNAMENT;HEAVY RIGHT-POINTING ANGLE BRACKET ORNAMENT",
    "LIGHT LEFT TORTOISE SHELL BRACKET ORNAMENT;LIGHT RIGHT TORTOISE SHELL BRACKET ORNAMENT",
    "MEDIUM LEFT CURLY BRACKET ORNAMENT;MEDIUM RIGHT CURLY BRACKET ORNAMENT"]⟩,
  ⟨0x2776, "DINGBAT NEGATIVE CIRCLED ", [
    "DIGIT ONE;DIGIT TWO;DIGIT THREE;DIGIT FOUR;DIGIT FIVE;DIGIT SIX;DIGIT SEVEN;DIGIT EIGHT",
    "DIGIT NINE;NUMBER TEN"]⟩,
  ⟨0x2780, "DINGBAT CIRCLED SANS-SERIF ", [
    "DIGIT ONE;DIGIT TWO;DIGIT THREE;DIGIT FOUR;DIGIT FIVE;DIGIT SIX;DIGIT SEVEN;DIGIT EIGHT",
    "DIGIT NINE;NUMBER TEN"]⟩,
  ⟨0x278A, "DINGBAT NEGATIVE CIRCLED SANS-SERIF DIGIT ", [
    "ONE;TWO;THREE;FOUR;FIVE;SIX;SEVEN;EIGHT;NINE"]⟩,
  ⟨0x2793, "", [
    "DINGBAT NEGATIVE CIRCLED SANS-SERIF NUMBER TEN;HEAVY WIDE-HEADED RIGHTWARDS ARROW",
    "HEAVY PLUS SIGN;HEAVY MINUS SIGN;HEAVY DIVISION SIGN;HEAVY SOUTH EAST ARROW",
    "HEAVY RIGHTWARDS ARROW;HEAVY NORTH EAST ARROW;DRAFTING POINT RIGHTWARDS ARROW",
    "HEAVY ROUND-TIPPED RIGHTWARDS ARROW;TRIANGLE-HEADED RIGHTWARDS ARROW",
    "HEAVY TRIANGLE-HEADED RIGHTWARDS ARROW;DASHED TRIANGLE-HEADED RIGHTWARDS ARROW",
    "HEAVY DASHED TRIANGLE-HEADED RIGHTWARDS ARROW;BLACK RIGHTWARDS ARROW",
    "THREE-D TOP-LIGHTED RIGHTWARDS ARROWHEAD;THREE-D BOTTOM-LIGHTED RIGHTWARDS ARROWHEAD",
    "BLACK RIGHTWARDS ARROWHEAD;HEAVY BLACK CURVED DOWNWARDS AND RIGHTWARDS ARROW",
    "HEAVY BLACK CURVED UPWARDS AND RIGHTWARDS ARROW;SQUAT BLACK RIGHTWARDS ARROW",
    "HEAVY CONCAVE-POINTED BLACK RIGHTWARDS ARROW;RIGHT-SHADED WHITE RIGHTWARDS ARROW",
    "LEFT-SHADED WHITE RIGHTWARDS ARROW;BACK-TILTED SHADOWED WHITE RIGHTWARDS ARROW",
    "FRONT-TILTED SHADOWED WHITE RIGHTWARDS ARROW",
    "HEAVY LOWER RIGHT-SHADOWED WHITE RIGHTWARDS ARROW",
    "HEAVY UPPER RIGHT-SHADOWED WHITE RIGHTWARDS ARROW",
    "NOTCHED LOWER RIGHT-SHADOWED WHITE RIGHTWARDS ARROW;CURLY LOOP",
    "NOTCHED UPPER RIGHT-SHADOWED WHITE RIGHTWARDS ARROW;CIRCLED HEAVY WHITE RIGHTWARDS ARROW",
    "WHITE-FEATHERED RIGHTWARDS ARROW;BLACK-FEATHERED SOUTH EAST ARROW",
    "BLACK-FEATHERED RIGHTWARDS ARROW;BLACK-FEATHERED NORTH EAST ARROW",
    "HEAVY BLACK-FEATHERED SOUTH EAST ARROW;HEAVY BLACK-FEATHERED RIGHTWARDS ARROW",
    "HEAVY BLACK-FEATHERED NORTH EAST ARROW;TEARDROP-BARBED RIGHTWARDS ARROW",
    "HEAVY TEARDROP-SHANKED RIGHTWARDS ARROW;WEDGE-TAILED RIGHTWARDS ARROW",
    "HEAVY WEDGE-TAILED RIGHTWARDS ARROW;OPEN-OUTLINED RIGHTWARDS ARROW;DOUBLE CURLY LOOP"]⟩,
  ⟨0x2800, "", ["BRAILLE PATTERN BLANK"]⟩,
  ⟨0x4DC0, "HEXAGRAM FOR ", [
    "THE CREATIVE HEAVEN;THE RECEPTIVE EARTH;DIFFICULTY AT THE BEGINNING;YOUTHFUL FOLLY;WAITING",
    "CONFLICT;THE ARMY;HOLDING TOGETHER;SMALL TAMING;TREADING;PEACE;STANDSTILL;FELLOWSHIP",
    "GREAT POSSESSION;MODESTY;ENTHUSIASM;FOLLOWING;WORK ON THE DECAYED;APPROACH;CONTEMPLATION",
    "BITING THROUGH;GRACE;SPLITTING APART;RETURN;INNOCENCE;GREAT TAMING;MOUTH CORNERS",
    "GREAT PREPONDERANCE;THE ABYSMAL WATER;THE CLINGING FIRE;INFLUENCE;DURATION;RETREAT",
    "GREAT POWER;PROGRESS;DARKENING OF THE LIGHT;THE FAMILY;OPPOSITION;OBSTRUCTION;DELIVERANCE",
    "DECREASE;INCREASE;BREAKTHROUGH;COMING TO MEET;GATHERING TOGETHER;PUSHING UPWARD;OPPRESSION",
    "THE WELL;REVOLUTION;THE CAULDRON;THE AROUSING THUNDER;THE KEEPING STILL MOUNTAIN",
    "DEVELOPMENT;THE MARRYING MAIDEN;ABUNDANCE;THE WANDERER;THE GENTLE WIND;THE JOYOUS LAKE",
    "DISPERSION;LIMITATION;INNER TRUTH;SMALL PREPONDERANCE;AFTER COMPLETION;BEFORE COMPLETION"]⟩,
  ⟨0x1CC00, "", [
    "UP-POINTING GO-KART;RIGHT-POINTING GO-KART;LEFT-POINTING STICK FIGURE",
    "RIGHT-POINTING STICK FIGURE;DOWN-POINTING STICK FIGURE;LOWER HORIZONTAL RULER SEGMENT",
    "RIGHT VERTICAL RULER SEGMENT;LOWER RIGHT RULER SEGMENT;ANTENNA;HORIZONTAL RESISTOR SEGMENT",
    "VERTICAL RESISTOR SEGMENT;LEFT THIRD INDUCTOR;MIDDLE THIRD INDUCTOR;RIGHT THIRD INDUCTOR",
    "LEFT-POINTING DIODE;RIGHT-POINTING DIODE;NPN TRANSISTOR;PNP TRANSISTOR;RECEPTACLE",
    "HORIZONTAL CAPACITOR;VERTICAL CAPACITOR"]⟩,
  ⟨0x1CC15, "LOGIC GATE ", [
    "OR;AND;INVERTED INPUTS;INVERTED OUTPUT;BUFFER;BUFFER WITH INVERTED INPUT"]⟩,
  ⟨0x1CC1B, "BOX DRAWINGS ", [
    "LIGHT HORIZONTAL AND UPPER RIGHT;LIGHT HORIZONTAL AND LOWER RIGHT;LIGHT TOP AND UPPER LEFT",
    "LIGHT BOTTOM AND LOWER LEFT;DOUBLE DIAGONAL UPPER RIGHT TO LOWER LEFT",
    "DOUBLE DIAGONAL UPPER LEFT TO LOWER RIGHT"]⟩,
  ⟨0x1CC21, "SEPARATED BLOCK QUADRANT-", ["1;2;12;3;13;23;123;4;14;24;124;34;134;234;1234"]⟩,
  ⟨0x1CC30, "UPPER ", [
    "LEFT TWELFTH CIRCLE;CENTRE LEFT TWELFTH CIRCLE;CENTRE RIGHT TWELFTH CIRCLE",
    "RIGHT TWELFTH CIRCLE;MIDDLE LEFT TWELFTH CIRCLE;LEFT QUARTER CIRCLE;RIGHT QUARTER CIRCLE",
    "MIDDLE RIGHT TWELFTH CIRCLE"]⟩,
  ⟨0x1CC38, "LOWER ", [
    "MIDDLE LEFT TWELFTH CIRCLE;LEFT QUARTER CIRCLE;RIGHT QUARTER CIRCLE",
    "MIDDLE RIGHT TWELFTH CIRCLE;LEFT TWELFTH CIRCLE;CENTRE LEFT TWELFTH CIRCLE",
    "CENTRE RIGHT TWELFTH CIRCLE;RIGHT TWELFTH CIRCLE"]⟩,
  ⟨0x1CC40, "", [
    "SPARSE HORIZONTAL FILL;SPARSE VERTICAL FILL;ORTHOGONAL CROSSHATCH FILL",
    "DIAGONAL CROSSHATCH FILL;DENSE VERTICAL FILL;DENSE HORIZONTAL FILL;SPECKLE FILL FRAME-1",
    "SPECKLE FILL FRAME-2;LEFT-FACING BASSINET;RIGHT-FACING BASSINET;FLYING SAUCER WITH BEAMS",
    "FLYING SAUCER WITHOUT BEAMS;ALIEN MONSTER OPEN JAWS;ALIEN MONSTER CLOSED JAWS",
    "ALIEN SQUID OPEN TENTACLES;ALIEN SQUID CLOSED TENTACLES;ALIEN CRAB STEPPING RIGHT",
    "ALIEN CRAB STEPPING LEFT;ALIEN SPIDER CROUCHING;ALIEN SPIDER SPREAD;ALIEN MONSTER STEP-1",
    "ALIEN MONSTER STEP-2;LEFT-POINTING ROCKET SHIP;UP-POINTING ROCKET SHIP",
    "RIGHT-POINTING ROCKET SHIP;DOWN-POINTING ROCKET SHIP;TOP HALF LEFT-FACING ROBOT",
    "TOP HALF FORWARD-FACING ROBOT;TOP HALF RIGHT-FACING ROBOT;BOTTOM HALF LEFT-FACING ROBOT",
    "BOTTOM HALF FORWARD-FACING ROBOT;BOTTOM HALF RIGHT-FACING ROBOT;LEFT-POINTING ATOMIC BOMB",
    "UP-POINTING ATOMIC BOMB;RIGHT-POINTING ATOMIC BOMB;DOWN-POINTING ATOMIC BOMB",
    "MUSHROOM CLOUD;LEFT-POINTING RIFLE;UP-POINTING RIFLE;RIGHT-POINTING RIFLE",
    "DOWN-POINTING RIFLE;EIGHT RAYS INWARD;EIGHT RAYS OUTWARD"]⟩,
  ⟨0x1CC6B, "BLACK LARGE CIRCLE MINUS ", [
    "LEFT QUARTER SECTION;UPPER QUARTER SECTION;RIGHT QUARTER SECTION;LOWER QUARTER SECTION"]⟩,
  ⟨0x1CC6F, "", [
    "BLACK NEUTRAL FACE;LEFT-FACING SNAKE HEAD WITH OPEN MOUTH",
    "UP-FACING SNAKE HEAD WITH OPEN MOUTH;RIGHT-FACING SNAKE HEAD WITH OPEN MOUTH",
    "DOWN-FACING SNAKE HEAD WITH OPEN MOUTH;LEFT-FACING SNAKE HEAD WITH CLOSED MOUTH",
    "UP-FACING SNAKE HEAD WITH CLOSED MOUTH;RIGHT-FACING SNAKE HEAD WITH CLOSED MOUTH",
    "DOWN-FACING SNAKE HEAD WITH CLOSED MOUTH;LEFT-POINTING ENERGY WAVE;UP-POINTING ENERGY WAVE",
    "RIGHT-POINTING ENERGY WAVE;DOWN-POINTING ENERGY WAVE;SQUARE SPIRAL FROM TOP LEFT",
    "SQUARE SPIRAL FROM TOP RIGHT;SQUARE SPIRAL FROM BOTTOM RIGHT",
    "SQUARE SPIRAL FROM BOTTOM LEFT;STRIPED LEFT-POINTING TRIANGLE;STRIPED UP-POINTING TRIANGLE",
    "STRIPED RIGHT-POINTING TRIANGLE;STRIPED DOWN-POINTING TRIANGLE;VERTICAL LADDER",
    "HORIZONTAL LADDER;WHITE LOWER LEFT POINTER;WHITE LOWER RIGHT POINTER",
    "TWO RINGS ALIGNED HORIZONTALLY;SQUARE FOUR CORNER SALTIRES;SQUARE FOUR CORNER DIAGONALS",
    "SQUARE FOUR CORNER BLACK TRIANGLES;SQUARE APERTURE;INVERSE BLACK DIAMOND",
    "LEFT AND UPPER ONE EIGHTH BLOCK CONTAINING BLACK SMALL SQUARE;INVERSE BLACK SMALL SQUARE",
    "VERTICAL LINE WITH FOUR TICK MARKS;HORIZONTAL LINE WITH FOUR TICK MARKS;LEFT-FACING FISH",
    "RIGHT-FACING FISH;LEFT-FACING FISH WITH OPEN MOUTH;RIGHT-FACING FISH WITH OPEN MOUTH",
    "FLAPPING BIRD;LEFT-POINTING RACING CAR;UP-POINTING RACING CAR;RIGHT-POINTING RACING CAR",
    "DOWN-POINTING RACING CAR;HORIZONTAL RACING CAR;VERTICAL RACING CAR;VERTICAL GO-KART",
    "LEFT-POINTING TANK;RIGHT-POINTING TANK;LEFT-POINTING ROCKET BOOSTER",
    "RIGHT-POINTING ROCKET BOOSTER;LEFT-POINTING ROLLER COASTER CAR",
    "RIGHT-POINTING ROLLER COASTER CAR;LEFT HALF FLYING SAUCER;RIGHT HALF FLYING SAUCER",
    "UPPER LEFT QUADRANT FACE WITH OPEN EYES;UPPER RIGHT QUADRANT FACE WITH OPEN EYES",
    "UPPER LEFT QUADRANT FACE WITH CLOSED EYES;UPPER RIGHT QUADRANT FACE WITH CLOSED EYES",
    "LOWER LEFT QUADRANT SMILING FACE;LOWER RIGHT QUADRANT SMILING FACE",
    "LOWER LEFT QUADRANT NEUTRAL FACE;LOWER RIGHT QUADRANT NEUTRAL FACE",
    "LOWER LEFT QUADRANT FACE WITH OPEN MOUTH;LOWER RIGHT QUADRANT FACE WITH OPEN MOUTH",
    "LOWER LEFT QUADRANT FROWNING FACE;LOWER RIGHT QUADRANT FROWNING FACE",
    "UPPER LEFT QUADRANT TELEVISION;UPPER RIGHT QUADRANT TELEVISION",
    "LOWER LEFT QUADRANT TELEVISION;LOWER RIGHT QUADRANT TELEVISION",
    "UPPER LEFT QUADRANT MICROCOMPUTER;UPPER RIGHT QUADRANT MICROCOMPUTER",
    "LOWER LEFT QUADRANT MICROCOMPUTER;LOWER RIGHT QUADRANT MICROCOMPUTER",
    "UPPER LEFT QUADRANT CHESS KING;UPPER RIGHT QUADRANT CHESS KING",
    "LOWER LEFT QUADRANT CHESS KING;LOWER RIGHT QUADRANT CHESS KING",
    "UPPER LEFT QUADRANT CHESS QUEEN;UPPER RIGHT QUADRANT CHESS QUEEN",
    "LOWER LEFT QUADRANT CHESS QUEEN;LOWER RIGHT QUADRANT CHESS QUEEN",
    "UPPER LEFT QUADRANT CHESS ROOK;UPPER RIGHT QUADRANT CHESS ROOK",
    "LOWER LEFT QUADRANT CHESS ROOK;LOWER RIGHT QUADRANT CHESS ROOK",
    "UPPER LEFT QUADRANT CHESS BISHOP;UPPER RIGHT QUADRANT CHESS BISHOP",
    "LOWER LEFT QUADRANT CHESS BISHOP;LOWER RIGHT QUADRANT CHESS BISHOP",
    "UPPER LEFT QUADRANT CHESS KNIGHT;UPPER RIGHT QUADRANT CHESS KNIGHT",
    "LOWER LEFT QUADRANT CHESS KNIGHT;LOWER RIGHT QUADRANT CHESS KNIGHT",
    "UPPER LEFT QUADRANT CHESS PAWN;UPPER RIGHT QUADRANT CHESS PAWN",
    "LOWER LEFT QUADRANT CHESS PAWN;LOWER RIGHT QUADRANT CHESS PAWN",
    "UPPER LEFT QUADRANT STANDING KNIGHT;UPPER RIGHT QUADRANT STANDING KNIGHT",
    "LOWER LEFT QUADRANT STANDING KNIGHT;LOWER RIGHT QUADRANT STANDING KNIGHT"]⟩,
  ⟨0x1CCD6, "OUTLINED LATIN CAPITAL LETTER ", [
    "A;B;C;D;E;F;G;H;I;J;K;L;M;N;O;P;Q;R;S;T;U;V;W;X;Y;Z"]⟩,
  ⟨0x1CCF0, "OUTLINED DIGIT ", ["ZERO;ONE;TWO;THREE;FOUR;FIVE;SIX;SEVEN;EIGHT;NINE"]⟩,
  ⟨0x1CD00, "BLOCK OCTANT-", [
    "3;23;123;4;14;124;34;134;234;5;15;25;125;135;235;1235;45;145;245;1245;345;1345;2345;12345",
    "6;16;26;126;36;136;236;1236;146;246;1246;346;1346;2346;12346;56;156;256;1256;356;1356;2356",
    "12356;456;1456;2456;12456;3456;13456;23456;17;27;127;37;137;237;1237;47;147;247;1247;347",
    "1347;2347;12347;157;257;1257;357;2357;12357;457;1457;12457;3457;13457;23457;67;167;267",
    "1267;367;1367;2367;12367;467;1467;2467;12467;3467;13467;23467;123467;567;1567;2567;12567",
    "3567;13567;23567;123567;4567;14567;24567;124567;34567;134567;234567;1234567;18;28;128;38",
    "138;238;1238;48;148;248;1248;348;1348;2348;12348;58;158;258;1258;358;1358;2358;12358;458",
    "1458;2458;12458;3458;13458;23458;123458;168;268;1268;368;2368;12368;468;1468;12468;3468",
    "13468;23468;568;1568;2568;12568;3568;13568;23568;123568;4568;14568;24568;124568;34568",
    "134568;234568;1234568;178;278;1278;378;1378;2378;12378;478;1478;2478;12478;3478;13478",
    "23478;123478;578;1578;2578;12578;3578;13578;23578;123578;4578;14578;24578;124578;34578",
    "134578;234578;1234578;678;1678;2678;12678;3678;13678;23678;123678;4678;14678;24678;124678",
    "34678;134678;234678;1234678;15678;25678;125678;35678;235678;1235678;45678;145678;1245678",
    "1345678;2345678"]⟩,
  ⟨0x1CDE6, "", [
    "TOP HALF STANDING PERSON;BOTTOM HALF STANDING PERSON;TOP HALF RIGHT-FACING RUNNER FRAME-1",
    "BOTTOM HALF RIGHT-FACING RUNNER FRAME-1;TOP HALF RIGHT-FACING RUNNER FRAME-2",
    "BOTTOM HALF RIGHT-FACING RUNNER FRAME-2;TOP HALF LEFT-FACING RUNNER FRAME-1",
    "BOTTOM HALF LEFT-FACING RUNNER FRAME-1;TOP HALF LEFT-FACING RUNNER FRAME-2",
    "BOTTOM HALF LEFT-FACING RUNNER FRAME-2;TOP HALF FORWARD-FACING RUNNER"]⟩,
  ⟨0x1CDF1, "BOTTOM HALF FORWARD-FACING RUNNER FRAME-", ["1;2;3;4"]⟩,
  ⟨0x1CDF5, "", [
    "MOON LANDER;TOP HALF FLAILING ROBOT FRAME-1;TOP HALF FLAILING ROBOT FRAME-2",
    "DOWN-POINTING AIRPLANE;LEFT-POINTING AIRPLANE;SMALL UP-POINTING AIRPLANE;UP-POINTING FROG",
    "DOWN-POINTING FROG;EXPLOSION FRAME-1;EXPLOSION FRAME-2;EXPLOSION FRAME-3",
    "RIGHT HALF AND LEFT HALF WHITE CIRCLE;LOWER HALF AND UPPER HALF WHITE CIRCLE",
    "EXPLOSION AT HORIZON;UPPER HALF HEAVY WHITE SQUARE;LOWER HALF HEAVY WHITE SQUARE",
    "HEAVY WHITE SQUARE CONTAINING BLACK VERY SMALL SQUARE",
    "WHITE VERTICAL RECTANGLE WITH HORIZONTAL BAR;TOP LEFT BLACK LEFT-POINTING SMALL TRIANGLE",
    "FUNNEL;BOX DRAWINGS DOUBLE DIAGONAL LOWER LEFT TO MIDDLE CENTRE TO LOWER RIGHT",
    "BOX DRAWINGS DOUBLE DIAGONAL UPPER LEFT TO MIDDLE CENTRE TO UPPER RIGHT",
    "LEFT HALF WHITE ELLIPSE;RIGHT HALF WHITE ELLIPSE;LEFT HALF TRIPLE DASH HORIZONTAL",
    "RIGHT HALF TRIPLE DASH HORIZONTAL;HORIZONTAL LINE WITH TICK MARK",
    "LEFT HALF HORIZONTAL LINE WITH THREE TICK MARKS",
    "RIGHT HALF HORIZONTAL LINE WITH THREE TICK MARKS;HORIZONTAL LINE WITH THREE TICK MARKS",
    "LOWER HALF VERTICAL LINE WITH THREE TICK MARKS",
    "UPPER HALF VERTICAL LINE WITH THREE TICK MARKS;VERTICAL LINE WITH THREE TICK MARKS"]⟩,
  ⟨0x1CE16, "BOX DRAWINGS LIGHT VERTICAL AND ", ["TOP RIGHT;BOTTOM RIGHT;TOP LEFT;BOTTOM LEFT"]⟩,
  ⟨0x1CE1A, "LARGE TYPE PIECE ", [
    "UPPER LEFT ARC;UPPER LEFT CORNER;UPPER TERMINAL;UPPER LEFT CROTCH;LEFT ARM;CROSSBAR",
    "CROSSBAR WITH LOWER STEM;UPPER HALF VERTEX OF M;DIAGONAL LOWER LEFT;SHORT UPPER TERMINAL",
    "UPPER RIGHT ARC;RIGHT ARM;UPPER RIGHT CROTCH;UPPER RIGHT CORNER;STEM WITH RIGHT CROSSBAR",
    "STEM;DIAGONAL UPPER RIGHT AND LOWER RIGHT;DIAGONAL UPPER RIGHT;DIAGONAL LOWER RIGHT",
    "SHORT LOWER TERMINAL;LOWER LEFT AND UPPER LEFT ARC;CENTRE OF K;LOWER HALF VERTEX OF M",
    "UPPER HALF VERTEX OF W;CENTRE OF X;CENTRE OF Y;CENTRE OF Z WITH CROSSBAR",
    "RAISED UPPER LEFT ARC;STEM WITH LEFT CROSSBAR;LOWER RIGHT AND UPPER RIGHT ARC",
    "DIAGONAL UPPER LEFT AND LOWER LEFT;STEM WITH LEFT JOINT;STEM WITH CROSSBAR",
    "DIAGONAL UPPER LEFT;LOWER TERMINAL;LOWER LEFT CORNER;LOWER LEFT ARC;LOWER LEFT CROTCH",
    "CROSSBAR WITH UPPER STEM;VERTEX OF V;LOWER HALF VERTEX OF W;LOWER RIGHT ARC",
    "LOWER RIGHT CORNER;LOWER RIGHT ARC WITH TAIL;LOWER RIGHT CROTCH;STEM-45;STEM-2345;STEM-4",
    "STEM-34;STEM-234;STEM-1234;STEM-3;STEM-23;STEM-2;STEM-12"]⟩,
  ⟨0x1CE51, "SEPARATED BLOCK SEXTANT-", [
    "1;2;12;3;13;23;123;4;14;24;124;34;134;234;1234;5;15;25;125;35;135;235;1235;45;145;245;1245",
    "345;1345;2345;12345;6;16;26;126;36;136;236;1236;46;146;246;1246;346;1346;2346;12346;56;156",
    "256;1256;356;1356;2356;12356;456;1456;2456;12456;3456;13456;23456;123456"]⟩,
  ⟨0x1CE90, "UPPER ", [
    "LEFT ONE SIXTEENTH BLOCK;CENTRE LEFT ONE SIXTEENTH BLOCK;CENTRE RIGHT ONE SIXTEENTH BLOCK",
    "RIGHT ONE SIXTEENTH BLOCK;MIDDLE LEFT ONE SIXTEENTH BLOCK",
    "MIDDLE CENTRE LEFT ONE SIXTEENTH BLOCK;MIDDLE CENTRE RIGHT ONE SIXTEENTH BLOCK",
    "MIDDLE RIGHT ONE SIXTEENTH BLOCK"]⟩,
  ⟨0x1CE98, "LOWER ", [
    "MIDDLE LEFT ONE SIXTEENTH BLOCK;MIDDLE CENTRE LEFT ONE SIXTEENTH BLOCK",
    "MIDDLE CENTRE RIGHT ONE SIXTEENTH BLOCK;MIDDLE RIGHT ONE SIXTEENTH BLOCK",
    "LEFT ONE SIXTEENTH BLOCK;CENTRE LEFT ONE SIXTEENTH BLOCK;CENTRE RIGHT ONE SIXTEENTH BLOCK",
    "RIGHT ONE SIXTEENTH BLOCK"]⟩,
  ⟨0x1CEA0, "", [
    "RIGHT HALF LOWER ONE QUARTER BLOCK;RIGHT THREE QUARTERS LOWER ONE QUARTER BLOCK",
    "LEFT THREE QUARTERS LOWER ONE QUARTER BLOCK;LEFT HALF LOWER ONE QUARTER BLOCK",
    "LOWER HALF LEFT ONE QUARTER BLOCK;LOWER THREE QUARTERS LEFT ONE QUARTER BLOCK",
    "UPPER THREE QUARTERS LEFT ONE QUARTER BLOCK;UPPER HALF LEFT ONE QUARTER BLOCK",
    "LEFT HALF UPPER ONE QUARTER BLOCK;LEFT THREE QUARTERS UPPER ONE QUARTER BLOCK",
    "RIGHT THREE QUARTERS UPPER ONE QUARTER BLOCK;RIGHT HALF UPPER ONE QUARTER BLOCK",
    "UPPER HALF RIGHT ONE QUARTER BLOCK;UPPER THREE QUARTERS RIGHT ONE QUARTER BLOCK",
    "LOWER THREE QUARTERS RIGHT ONE QUARTER BLOCK;LOWER HALF RIGHT ONE QUARTER BLOCK",
    "HORIZONTAL ZIGZAG LINE;KEYHOLE;OLD PERSONAL COMPUTER WITH MONITOR IN PORTRAIT ORIENTATION",
    "BLACK RIGHT TRIANGLE CARET"]⟩,
  ⟨0x1D300, "", ["MONOGRAM FOR EARTH"]⟩,
  ⟨0x1D301, "DIGRAM FOR ", ["HEAVENLY EARTH;HUMAN EARTH;EARTHLY HEAVEN;EARTHLY HUMAN;EARTH"]⟩,
  ⟨0x1D306, "TETRAGRAM FOR ", [
    "CENTRE;FULL CIRCLE;MIRED;BARRIER;KEEPING SMALL;CONTRARIETY;ASCENT;OPPOSITION;BRANCHING OUT",
    "DEFECTIVENESS OR DISTORTION;DIVERGENCE;YOUTHFULNESS;INCREASE;PENETRATION;REACH;CONTACT",
    "HOLDING BACK;WAITING;FOLLOWING;ADVANCE;RELEASE;RESISTANCE;EASE;JOY;CONTENTION;ENDEAVOUR",
    "DUTIES;CHANGE;DECISIVENESS;BOLD RESOLUTION;PACKING;LEGION;CLOSENESS;KINSHIP;GATHERING",
    "STRENGTH;PURITY;FULLNESS;RESIDENCE;LAW OR MODEL;RESPONSE;GOING TO MEET;ENCOUNTERS;STOVE",
    "GREATNESS;ENLARGEMENT;PATTERN;RITUAL;FLIGHT;VASTNESS OR WASTING;CONSTANCY;MEASURE;ETERNITY",
    "UNITY;DIMINISHMENT;CLOSED MOUTH;GUARDEDNESS;GATHERING IN;MASSING;ACCUMULATION",
    "EMBELLISHMENT;DOUBT;WATCH;SINKING;INNER;DEPARTURE;DARKENING;DIMMING;EXHAUSTION;SEVERANCE",
    "STOPPAGE;HARDNESS;COMPLETION;CLOSURE;FAILURE;AGGRAVATION;COMPLIANCE;ON THE VERGE",
    "DIFFICULTIES;LABOURING;FOSTERING"]⟩,
  ⟨0x1F650, "", [
    "NORTH WEST POINTING LEAF;SOUTH WEST POINTING LEAF;NORTH EAST POINTING LEAF",
    "SOUTH EAST POINTING LEAF;TURNED NORTH WEST POINTING LEAF;TURNED SOUTH WEST POINTING LEAF",
    "TURNED NORTH EAST POINTING LEAF;TURNED SOUTH EAST POINTING LEAF",
    "NORTH WEST POINTING VINE LEAF;SOUTH WEST POINTING VINE LEAF;NORTH EAST POINTING VINE LEAF",
    "SOUTH EAST POINTING VINE LEAF;HEAVY NORTH WEST POINTING VINE LEAF",
    "HEAVY SOUTH WEST POINTING VINE LEAF;HEAVY NORTH EAST POINTING VINE LEAF",
    "HEAVY SOUTH EAST POINTING VINE LEAF;NORTH WEST POINTING BUD;SOUTH WEST POINTING BUD",
    "NORTH EAST POINTING BUD;SOUTH EAST POINTING BUD;HEAVY NORTH WEST POINTING BUD",
    "HEAVY SOUTH WEST POINTING BUD;HEAVY NORTH EAST POINTING BUD;HEAVY SOUTH EAST POINTING BUD",
    "HOLLOW QUILT SQUARE ORNAMENT;HOLLOW QUILT SQUARE ORNAMENT IN BLACK SQUARE",
    "SOLID QUILT SQUARE ORNAMENT;SOLID QUILT SQUARE ORNAMENT IN BLACK SQUARE;LEFTWARDS ROCKET",
    "UPWARDS ROCKET;RIGHTWARDS ROCKET;DOWNWARDS ROCKET;SCRIPT LIGATURE ET ORNAMENT",
    "HEAVY SCRIPT LIGATURE ET ORNAMENT;LIGATURE OPEN ET ORNAMENT",
    "HEAVY LIGATURE OPEN ET ORNAMENT;HEAVY AMPERSAND ORNAMENT;SWASH AMPERSAND ORNAMENT",
    "SANS-SERIF HEAVY DOUBLE TURNED COMMA QUOTATION MARK ORNAMENT",
    "SANS-SERIF HEAVY DOUBLE COMMA QUOTATION MARK ORNAMENT",
    "SANS-SERIF HEAVY LOW DOUBLE COMMA QUOTATION MARK ORNAMENT;HEAVY INTERROBANG ORNAMENT",
    "SANS-SERIF INTERROBANG ORNAMENT;HEAVY SANS-SERIF INTERROBANG ORNAMENT;VERY HEAVY SOLIDUS",
    "VERY HEAVY REVERSE SOLIDUS;CHECKER BOARD;REVERSE CHECKER BOARD"]⟩,
  ⟨0x1F700, "ALCHEMICAL SYMBOL FOR ", [
    "QUINTESSENCE;AIR;FIRE;EARTH;WATER;AQUAFORTIS;AQUA REGIA;AQUA REGIA-2;AQUA VITAE",
    "AQUA VITAE-2;VINEGAR;VINEGAR-2;VINEGAR-3;SULFUR;PHILOSOPHERS SULFUR;BLACK SULFUR",
    "MERCURY SUBLIMATE;MERCURY SUBLIMATE-2;MERCURY SUBLIMATE-3;CINNABAR;SALT;NITRE;VITRIOL",
    "VITRIOL-2;ROCK SALT;ROCK SALT-2;GOLD;SILVER;IRON ORE;IRON ORE-2;CROCUS OF IRON",
    "REGULUS OF IRON;COPPER ORE;IRON-COPPER ORE;SUBLIMATE OF COPPER;CROCUS OF COPPER",
    "CROCUS OF COPPER-2;COPPER ANTIMONIATE;SALT OF COPPER ANTIMONIATE",
    "SUBLIMATE OF SALT OF COPPER;VERDIGRIS;TIN ORE;LEAD ORE;ANTIMONY ORE;SUBLIMATE OF ANTIMONY",
    "SALT OF ANTIMONY;SUBLIMATE OF SALT OF ANTIMONY;VINEGAR OF ANTIMONY;REGULUS OF ANTIMONY",
    "REGULUS OF ANTIMONY-2;REGULUS;REGULUS-2;REGULUS-3;REGULUS-4;ALKALI;ALKALI-2;MARCASITE",
    "SAL-AMMONIAC;ARSENIC;REALGAR;REALGAR-2;AURIPIGMENT;BISMUTH ORE;TARTAR;TARTAR-2;QUICK LIME",
    "BORAX;BORAX-2;BORAX-3;ALUM;OIL;SPIRIT;TINCTURE;GUM;WAX;POWDER;CALX;TUTTY;CAPUT MORTUUM",
    "SCEPTER OF JOVE;CADUCEUS;TRIDENT;STARRED TRIDENT;LODESTONE;SOAP;URINE;HORSE DUNG;ASHES",
    "POT ASHES;BRICK;POWDERED BRICK;AMALGAM;STRATUM SUPER STRATUM;STRATUM SUPER STRATUM-2",
    "SUBLIMATION;PRECIPITATE;DISTILL;DISSOLVE;DISSOLVE-2;PURIFY;PUTREFACTION;CRUCIBLE",
    "CRUCIBLE-2;CRUCIBLE-3;CRUCIBLE-4;CRUCIBLE-5;ALEMBIC;BATH OF MARY;BATH OF VAPOURS;RETORT",
    "HOUR;NIGHT;DAY-NIGHT;MONTH;HALF DRAM;HALF OUNCE"]⟩,
  ⟨0x1F774, "", [
    "LOT OF FORTUNE;OCCULTATION;LUNAR ECLIPSE;;;;;HAUMEA;MAKEMAKE;GONGGONG;QUAOAR;ORCUS"]⟩,
  ⟨0x1F780, "", [
    "BLACK LEFT-POINTING ISOSCELES RIGHT TRIANGLE;BLACK UP-POINTING ISOSCELES RIGHT TRIANGLE",
    "BLACK RIGHT-POINTING ISOSCELES RIGHT TRIANGLE;BLACK DOWN-POINTING ISOSCELES RIGHT TRIANGLE",
    "BLACK SLIGHTLY SMALL CIRCLE;MEDIUM BOLD WHITE CIRCLE;BOLD WHITE CIRCLE;HEAVY WHITE CIRCLE",
    "VERY HEAVY WHITE CIRCLE;EXTREMELY HEAVY WHITE CIRCLE",
    "WHITE CIRCLE CONTAINING BLACK SMALL CIRCLE;ROUND TARGET;BLACK TINY SQUARE",
    "BLACK SLIGHTLY SMALL SQUARE;LIGHT WHITE SQUARE;MEDIUM WHITE SQUARE;BOLD WHITE SQUARE",
    "HEAVY WHITE SQUARE;VERY HEAVY WHITE SQUARE;EXTREMELY HEAVY WHITE SQUARE",
    "WHITE SQUARE CONTAINING BLACK VERY SMALL SQUARE",
    "WHITE SQUARE CONTAINING BLACK MEDIUM SQUARE;SQUARE TARGET;BLACK TINY DIAMOND",
    "BLACK VERY SMALL DIAMOND;BLACK MEDIUM SMALL DIAMOND",
    "WHITE DIAMOND CONTAINING BLACK VERY SMALL DIAMOND",
    "WHITE DIAMOND CONTAINING BLACK MEDIUM DIAMOND;DIAMOND TARGET;BLACK TINY LOZENGE",
    "BLACK VERY SMALL LOZENGE;BLACK MEDIUM SMALL LOZENGE",
    "WHITE LOZENGE CONTAINING BLACK SMALL LOZENGE;THIN GREEK CROSS;LIGHT GREEK CROSS",
    "MEDIUM GREEK CROSS;BOLD GREEK CROSS;VERY BOLD GREEK CROSS;VERY HEAVY GREEK CROSS",
    "EXTREMELY HEAVY GREEK CROSS;THIN SALTIRE;LIGHT SALTIRE;MEDIUM SALTIRE;BOLD SALTIRE",
    "HEAVY SALTIRE;VERY HEAVY SALTIRE;EXTREMELY HEAVY SALTIRE;LIGHT FIVE SPOKED ASTERISK",
    "MEDIUM FIVE SPOKED ASTERISK;BOLD FIVE SPOKED ASTERISK;HEAVY FIVE SPOKED ASTERISK",
    "VERY HEAVY FIVE SPOKED ASTERISK;EXTREMELY HEAVY FIVE SPOKED ASTERISK",
    "LIGHT SIX SPOKED ASTERISK;MEDIUM SIX SPOKED ASTERISK;BOLD SIX SPOKED ASTERISK",
    "HEAVY SIX SPOKED ASTERISK;VERY HEAVY SIX SPOKED ASTERISK",
    "EXTREMELY HEAVY SIX SPOKED ASTERISK;LIGHT EIGHT SPOKED ASTERISK",
    "MEDIUM EIGHT SPOKED ASTERISK;BOLD EIGHT SPOKED ASTERISK;HEAVY EIGHT SPOKED ASTERISK",
    "VERY HEAVY EIGHT SPOKED ASTERISK;LIGHT THREE POINTED BLACK STAR",
    "MEDIUM THREE POINTED BLACK STAR;THREE POINTED BLACK STAR",
    "MEDIUM THREE POINTED PINWHEEL STAR;LIGHT FOUR POINTED BLACK STAR",
    "MEDIUM FOUR POINTED BLACK STAR;FOUR POINTED BLACK STAR;MEDIUM FOUR POINTED PINWHEEL STAR",
    "REVERSE LIGHT FOUR POINTED PINWHEEL STAR;LIGHT FIVE POINTED BLACK STAR",
    "HEAVY FIVE POINTED BLACK STAR;MEDIUM SIX POINTED BLACK STAR;HEAVY SIX POINTED BLACK STAR",
    "SIX POINTED PINWHEEL STAR;MEDIUM EIGHT POINTED BLACK STAR;HEAVY EIGHT POINTED BLACK STAR",
    "VERY HEAVY EIGHT POINTED BLACK STAR;HEAVY EIGHT POINTED PINWHEEL STAR",
    "LIGHT TWELVE POINTED BLACK STAR;HEAVY TWELVE POINTED BLACK STAR",
    "HEAVY TWELVE POINTED PINWHEEL STAR;CIRCLED TRIANGLE;NEGATIVE CIRCLED TRIANGLE",
    "CIRCLED SQUARE;NEGATIVE CIRCLED SQUARE;NINE POINTED WHITE STAR"]⟩,
  ⟨0x1F7E0, "LARGE ", [
    "ORANGE CIRCLE;YELLOW CIRCLE;GREEN CIRCLE;PURPLE CIRCLE;BROWN CIRCLE;RED SQUARE;BLUE SQUARE",
    "ORANGE SQUARE;YELLOW SQUARE;GREEN SQUARE;PURPLE SQUARE;BROWN SQUARE"]⟩,
  ⟨0x1F7F0, "", ["HEAVY EQUALS SIGN"]⟩,
  ⟨0x1FB00, "BLOCK SEXTANT-", [
    "1;2;12;3;13;23;123;4;14;24;124;34;134;234;1234;5;15;25;125;35;235;1235;45;145;245;1245;345",
    "1345;2345;12345;6;16;26;126;36;136;236;1236;46;146;1246;346;1346;2346;12346;56;156;256",
    "1256;356;1356;2356;12356;456;1456;2456;12456;3456;13456;23456"]⟩,
  ⟨0x1FB3C, "LOWER LEFT BLOCK DIAGONAL ", [
    "LOWER MIDDLE LEFT TO LOWER CENTRE;LOWER MIDDLE LEFT TO LOWER RIGHT",
    "UPPER MIDDLE LEFT TO LOWER CENTRE;UPPER MIDDLE LEFT TO LOWER RIGHT",
    "UPPER LEFT TO LOWER CENTRE"]⟩,
  ⟨0x1FB41, "LOWER RIGHT BLOCK DIAGONAL UPPER MIDDLE LEFT TO UPPER ", ["CENTRE;RIGHT"]⟩,
  ⟨0x1FB43, "LOWER RIGHT BLOCK DIAGONAL LOWER ", [
    "MIDDLE LEFT TO UPPER CENTRE;MIDDLE LEFT TO UPPER RIGHT;LEFT TO UPPER CENTRE",
    "MIDDLE LEFT TO UPPER MIDDLE RIGHT;CENTRE TO LOWER MIDDLE RIGHT;LEFT TO LOWER MIDDLE RIGHT",
    "CENTRE TO UPPER MIDDLE RIGHT;LEFT TO UPPER MIDDLE RIGHT;CENTRE TO UPPER RIGHT"]⟩,
  ⟨0x1FB4C, "LOWER LEFT BLOCK DIAGONAL UPPER ", [
    "CENTRE TO UPPER MIDDLE RIGHT;LEFT TO UPPER MIDDLE RIGHT;CENTRE TO LOWER MIDDLE RIGHT",
    "LEFT TO LOWER MIDDLE RIGHT;CENTRE TO LOWER RIGHT;MIDDLE LEFT TO LOWER MIDDLE RIGHT"]⟩,
  ⟨0x1FB52, "UPPER RIGHT BLOCK DIAGONAL ", [
    "LOWER MIDDLE LEFT TO LOWER CENTRE;LOWER MIDDLE LEFT TO LOWER RIGHT",
    "UPPER MIDDLE LEFT TO LOWER CENTRE;UPPER MIDDLE LEFT TO LOWER RIGHT",
    "UPPER LEFT TO LOWER CENTRE"]⟩,
  ⟨0x1FB57, "UPPER LEFT BLOCK DIAGONAL UPPER MIDDLE LEFT TO UPPER ", ["CENTRE;RIGHT"]⟩,
  ⟨0x1FB59, "UPPER LEFT BLOCK DIAGONAL LOWER ", [
    "MIDDLE LEFT TO UPPER CENTRE;MIDDLE LEFT TO UPPER RIGHT;LEFT TO UPPER CENTRE",
    "MIDDLE LEFT TO UPPER MIDDLE RIGHT;CENTRE TO LOWER MIDDLE RIGHT;LEFT TO LOWER MIDDLE RIGHT",
    "CENTRE TO UPPER MIDDLE RIGHT;LEFT TO UPPER MIDDLE RIGHT;CENTRE TO UPPER RIGHT"]⟩,
  ⟨0x1FB62, "UPPER RIGHT BLOCK DIAGONAL UPPER ", [
    "CENTRE TO UPPER MIDDLE RIGHT;LEFT TO UPPER MIDDLE RIGHT;CENTRE TO LOWER MIDDLE RIGHT",
    "LEFT TO LOWER MIDDLE RIGHT;CENTRE TO LOWER RIGHT;MIDDLE LEFT TO LOWER MIDDLE RIGHT"]⟩,
  ⟨0x1FB68, "", [
    "UPPER AND RIGHT AND LOWER TRIANGULAR THREE QUARTERS BLOCK",
    "LEFT AND LOWER AND RIGHT TRIANGULAR THREE QUARTERS BLOCK",
    "UPPER AND LEFT AND LOWER TRIANGULAR THREE QUARTERS BLOCK",
    "LEFT AND UPPER AND RIGHT TRIANGULAR THREE QUARTERS BLOCK;LEFT TRIANGULAR ONE QUARTER BLOCK",
    "UPPER TRIANGULAR ONE QUARTER BLOCK;RIGHT TRIANGULAR ONE QUARTER BLOCK",
    "LOWER TRIANGULAR ONE QUARTER BLOCK"]⟩,
  ⟨0x1FB70, "VERTICAL ONE EIGHTH BLOCK-", ["2;3;4;5;6;7"]⟩,
  ⟨0x1FB76, "HORIZONTAL ONE EIGHTH BLOCK-", ["2;3;4;5;6;7"]⟩,
  ⟨0x1FB7C, "", [
    "LEFT AND LOWER ONE EIGHTH BLOCK;LEFT AND UPPER ONE EIGHTH BLOCK",
    "RIGHT AND UPPER ONE EIGHTH BLOCK;RIGHT AND LOWER ONE EIGHTH BLOCK",
    "UPPER AND LOWER ONE EIGHTH BLOCK;HORIZONTAL ONE EIGHTH BLOCK-1358;UPPER ONE QUARTER BLOCK",
    "UPPER THREE EIGHTHS BLOCK;UPPER FIVE EIGHTHS BLOCK;UPPER THREE QUARTERS BLOCK",
    "UPPER SEVEN EIGHTHS BLOCK;RIGHT ONE QUARTER BLOCK;RIGHT THREE EIGHTHS BLOCK",
    "RIGHT FIVE EIGHTHS BLOCK;RIGHT THREE QUARTERS BLOCK;RIGHT SEVEN EIGHTHS BLOCK",
    "LEFT HALF MEDIUM SHADE;RIGHT HALF MEDIUM SHADE;UPPER HALF MEDIUM SHADE",
    "LOWER HALF MEDIUM SHADE;INVERSE MEDIUM SHADE",
    "UPPER HALF BLOCK AND LOWER HALF INVERSE MEDIUM SHADE",
    "UPPER HALF INVERSE MEDIUM SHADE AND LOWER HALF BLOCK;",
    "LEFT HALF INVERSE MEDIUM SHADE AND RIGHT HALF BLOCK;CHECKER BOARD FILL",
    "INVERSE CHECKER BOARD FILL;HEAVY HORIZONTAL FILL;UPPER LEFT TO LOWER RIGHT FILL",
    "UPPER RIGHT TO LOWER LEFT FILL;UPPER AND LOWER TRIANGULAR HALF BLOCK",
    "LEFT AND RIGHT TRIANGULAR HALF BLOCK;UPPER LEFT TRIANGULAR MEDIUM SHADE",
    "UPPER RIGHT TRIANGULAR MEDIUM SHADE;LOWER RIGHT TRIANGULAR MEDIUM SHADE",
    "LOWER LEFT TRIANGULAR MEDIUM SHADE"]⟩,
  ⟨0x1FBA0, "BOX DRAWINGS LIGHT DIAGONAL ", [
    "UPPER CENTRE TO MIDDLE LEFT;UPPER CENTRE TO MIDDLE RIGHT;MIDDLE LEFT TO LOWER CENTRE",
    "MIDDLE RIGHT TO LOWER CENTRE;UPPER CENTRE TO MIDDLE LEFT TO LOWER CENTRE",
    "UPPER CENTRE TO MIDDLE RIGHT TO LOWER CENTRE;MIDDLE LEFT TO LOWER CENTRE TO MIDDLE RIGHT",
    "MIDDLE LEFT TO UPPER CENTRE TO MIDDLE RIGHT",
    "UPPER CENTRE TO MIDDLE LEFT AND MIDDLE RIGHT TO LOWER CENTRE",
    "UPPER CENTRE TO MIDDLE RIGHT AND MIDDLE LEFT TO LOWER CENTRE",
    "UPPER CENTRE TO MIDDLE RIGHT TO LOWER CENTRE TO MIDDLE LEFT",
    "UPPER CENTRE TO MIDDLE LEFT TO LOWER CENTRE TO MIDDLE RIGHT",
    "MIDDLE LEFT TO UPPER CENTRE TO MIDDLE RIGHT TO LOWER CENTRE",
    "MIDDLE RIGHT TO UPPER CENTRE TO MIDDLE LEFT TO LOWER CENTRE;DIAMOND"]⟩,
  ⟨0x1FBAF, "", [
    "BOX DRAWINGS LIGHT HORIZONTAL WITH VERTICAL STROKE;ARROWHEAD-SHAPED POINTER",
    "INVERSE CHECK MARK;LEFT HALF RUNNING MAN;RIGHT HALF RUNNING MAN",
    "INVERSE DOWNWARDS ARROW WITH TIP LEFTWARDS",
    "LEFTWARDS ARROW AND UPPER AND LOWER ONE EIGHTH BLOCK",
    "RIGHTWARDS ARROW AND UPPER AND LOWER ONE EIGHTH BLOCK",
    "DOWNWARDS ARROW AND RIGHT ONE EIGHTH BLOCK;UPWARDS ARROW AND RIGHT ONE EIGHTH BLOCK",
    "LEFT HALF FOLDER;RIGHT HALF FOLDER;VOIDED GREEK CROSS;RIGHT OPEN SQUARED DOT",
    "NEGATIVE DIAGONAL CROSS;NEGATIVE DIAGONAL MIDDLE RIGHT TO LOWER CENTRE",
    "NEGATIVE DIAGONAL DIAMOND;WHITE HEAVY SALTIRE WITH ROUNDED CORNERS",
    "LEFT THIRD WHITE RIGHT POINTING INDEX;MIDDLE THIRD WHITE RIGHT POINTING INDEX",
    "RIGHT THIRD WHITE RIGHT POINTING INDEX;NEGATIVE SQUARED QUESTION MARK;STICK FIGURE",
    "STICK FIGURE WITH ARMS RAISED;STICK FIGURE LEANING LEFT;STICK FIGURE LEANING RIGHT",
    "STICK FIGURE WITH DRESS;WHITE UP-POINTING CHEVRON;WHITE CROSS MARK",
    "RAISED SMALL LEFT SQUARE BRACKET;BLACK SMALL UP-POINTING CHEVRON;LEFT TWO THIRDS BLOCK",
    "LEFT ONE THIRD BLOCK"]⟩,
  ⟨0x1FBD0, "BOX DRAWINGS LIGHT DIAGONAL ", [
    "MIDDLE RIGHT TO LOWER LEFT;UPPER RIGHT TO MIDDLE LEFT;UPPER LEFT TO MIDDLE RIGHT",
    "MIDDLE LEFT TO LOWER RIGHT;UPPER LEFT TO LOWER CENTRE;UPPER CENTRE TO LOWER RIGHT",
    "UPPER RIGHT TO LOWER CENTRE;UPPER CENTRE TO LOWER LEFT",
    "UPPER LEFT TO MIDDLE CENTRE TO UPPER RIGHT;UPPER RIGHT TO MIDDLE CENTRE TO LOWER RIGHT",
    "LOWER LEFT TO MIDDLE CENTRE TO LOWER RIGHT;UPPER LEFT TO MIDDLE CENTRE TO LOWER LEFT",
    "UPPER LEFT TO LOWER CENTRE TO UPPER RIGHT;UPPER RIGHT TO MIDDLE LEFT TO LOWER RIGHT",
    "LOWER LEFT TO UPPER CENTRE TO LOWER RIGHT;UPPER LEFT TO MIDDLE RIGHT TO LOWER LEFT"]⟩,
  ⟨0x1FBE0, "", [
    "TOP JUSTIFIED LOWER HALF WHITE CIRCLE;RIGHT JUSTIFIED LEFT HALF WHITE CIRCLE",
    "BOTTOM JUSTIFIED UPPER HALF WHITE CIRCLE;LEFT JUSTIFIED RIGHT HALF WHITE CIRCLE",
    "UPPER CENTRE ONE QUARTER BLOCK;LOWER CENTRE ONE QUARTER BLOCK",
    "MIDDLE LEFT ONE QUARTER BLOCK;MIDDLE RIGHT ONE QUARTER BLOCK",
    "TOP JUSTIFIED LOWER HALF BLACK CIRCLE;RIGHT JUSTIFIED LEFT HALF BLACK CIRCLE",
    "BOTTOM JUSTIFIED UPPER HALF BLACK CIRCLE;LEFT JUSTIFIED RIGHT HALF BLACK CIRCLE",
    "TOP RIGHT JUSTIFIED LOWER LEFT QUARTER BLACK CIRCLE",
    "BOTTOM LEFT JUSTIFIED UPPER RIGHT QUARTER BLACK CIRCLE",
    "BOTTOM RIGHT JUSTIFIED UPPER LEFT QUARTER BLACK CIRCLE",
    "TOP LEFT JUSTIFIED LOWER RIGHT QUARTER BLACK CIRCLE"]⟩,
  ⟨0x1FBF0, "SEGMENTED DIGIT ", ["ZERO;ONE;TWO;THREE;FOUR;FIVE;SIX;SEVEN;EIGHT;NINE"]⟩
]

end Frontend.CharacterName
