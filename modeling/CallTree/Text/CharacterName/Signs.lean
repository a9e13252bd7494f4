/-
# CallTree.Text.CharacterName.Signs — names of characters.

Unicode 14, from 0x2000 to 0x2e5d: punctuation, numbers, arrows, operators and other signs.
How the names are written is told beside `CallTree.Text.NameRun`.
-/
import CallTree.Text.CharacterName.Run

namespace CallTree.Text

/-- The names of characters from 0x2000 to 0x2e5d. -/
def signNames : List NameRun := [
  ⟨0x2000, ["EN QUAD;EM~1;EN SPACE;EM~1;THREE-PER-EM~1;FOUR-PER-EM~1;SIX-PER-EM~1;FIGURE~1",
    "PUNCTUATION~1;THIN~1;HAIR~1;ZERO WIDTH~1;2NON-JOINER;2JOINER;LEFT-TO-RIGHT MARK",
    "RIGHT-TO-LEFT~1;HYPHEN;NON-BREAKING~1;FIGURE DASH;EN~1;EM~1;HORIZONTAL BAR",
    "DOUBLE VERTICAL LINE;1LOW~1;LEFT SINGLE QUOTATION MARK;RIGHT~3;SINGLE LOW-9~2",
    "1HIGH-REVERSED-9~2;LEFT DOUBLE~2;RIGHT~3;DOUBLE LOW-9~2;1HIGH-REVERSED-9~2;DAGGER;DOUBLE~1",
    "BULLET;TRIANGULAR~1;ONE DOT LEADER;TWO~2;HORIZONTAL ELLIPSIS;HYPHENATION POINT;LINE SEPARATOR",
    "PARAGRAPH~1;LEFT-TO-RIGHT EMBEDDING;RIGHT-TO-LEFT~1;POP DIRECTIONAL FORMATTING",
    "LEFT-TO-RIGHT OVERRIDE;RIGHT-TO-LEFT~1;NARROW NO-BREAK SPACE;PER MILLE SIGN;1TEN THOUSAND~1",
    "PRIME;DOUBLE~1;TRIPLE~1;REVERSED~1;1DOUBLE~1;1TRIPLE~1;CARET",
    "SINGLE LEFT-POINTING ANGLE QUOTATION MARK;1RIGHT-POINTING~3;REFERENCE~1;DOUBLE EXCLAMATION~1",
    "INTERROBANG;OVERLINE;UNDERTIE;CHARACTER TIE;CARET INSERTION POINT;ASTERISM;HYPHEN BULLET",
    "FRACTION SLASH;LEFT SQUARE BRACKET WITH QUILL;RIGHT~4;DOUBLE QUESTION MARK",
    "QUESTION EXCLAMATION~1;EXCLAMATION QUESTION~1;TIRONIAN SIGN ET;REVERSED PILCROW SIGN",
    "BLACK LEFTWARDS BULLET;1RIGHTWARDS~1;LOW ASTERISK;REVERSED SEMICOLON;CLOSE UP",
    "TWO ASTERISKS ALIGNED VERTICALLY;COMMERCIAL MINUS SIGN;SWUNG DASH;INVERTED UNDERTIE",
    "FLOWER PUNCTUATION MARK;THREE DOT PUNCTUATION;QUADRUPLE PRIME;FOUR DOT PUNCTUATION;FIVE~2",
    "TWO~2;FOUR DOT MARK;DOTTED CROSS;TRICOLON;VERTICAL FOUR DOTS;MEDIUM MATHEMATICAL SPACE",
    "WORD JOINER;FUNCTION APPLICATION;INVISIBLE TIMES;1SEPARATOR;1PLUS"]⟩,
  ⟨0x2066, ["LEFT-TO-RIGHT ISOLATE;RIGHT-TO-LEFT~1;FIRST STRONG~1;POP DIRECTIONAL~1",
    "INHIBIT SYMMETRIC SWAPPING;ACTIVATE~2;INHIBIT ARABIC FORM SHAPING;ACTIVATE~3",
    "NATIONAL DIGIT SHAPES;NOMINAL~2;SUPERSCRIPT ZERO;1LATIN SMALL LETTER I"]⟩,
  ⟨0x2074, ["SUPERSCRIPT FOUR;1FIVE;1SIX;1SEVEN;1EIGHT;1NINE;1PLUS SIGN;1MINUS;1EQUALS SIGN",
    "1LEFT PARENTHESIS;1RIGHT~1;1LATIN SMALL LETTER N;SUBSCRIPT ZERO;1ONE;1TWO;1THREE;1FOUR;1FIVE",
    "1SIX;1SEVEN;1EIGHT;1NINE;1PLUS SIGN;1MINUS;1EQUALS SIGN;1LEFT PARENTHESIS;1RIGHT~1"]⟩,
  ⟨0x2090, ["LATIN SUBSCRIPT SMALL LETTER A;4E;4O;4X;4SCHWA;4H;4K;4L;4M;4N;4P;4S;4T"]⟩,
  ⟨0x20a0, ["EURO-CURRENCY SIGN;COLON~1;CRUZEIRO~1;FRENCH FRANC~1;LIRA~1;MILL~1;NAIRA~1;PESETA~1",
    "RUPEE~1;WON~1;NEW SHEQEL~1;DONG~1;EURO~1;KIP~1;TUGRIK~1;DRACHMA~1;GERMAN PENNY~1;PESO~1",
    "GUARANI~1;AUSTRAL~1;HRYVNIA~1;CEDI~1;LIVRE TOURNOIS~1;SPESMILO~1;TENGE~1;INDIAN RUPEE~1",
    "TURKISH LIRA~1;NORDIC MARK~1;MANAT~1;RUBLE~1;LARI~1;BITCOIN~1;SOM~1"]⟩,
  ⟨0x20d0, ["COMBINING LEFT HARPOON ABOVE;1RIGHT~2;1LONG VERTICAL LINE OVERLAY;1SHORT~3",
    "1ANTICLOCKWISE ARROW ABOVE;1CLOCKWISE~2;1LEFT~2;1RIGHT~2;1RING OVERLAY;1CLOCKWISE~2",
    "1ANTICLOCKWISE~2;1THREE DOTS ABOVE;1FOUR~2;1ENCLOSING CIRCLE;2SQUARE;2DIAMOND",
    "2CIRCLE BACKSLASH;1LEFT RIGHT ARROW ABOVE;1ENCLOSING SCREEN;2KEYCAP;2UPWARD POINTING TRIANGLE",
    "1REVERSE SOLIDUS OVERLAY;1DOUBLE VERTICAL STROKE~1;1ANNUITY SYMBOL;1TRIPLE UNDERDOT",
    "1WIDE BRIDGE ABOVE;1LEFTWARDS ARROW OVERLAY;1LONG DOUBLE SOLIDUS~1",
    "1RIGHTWARDS HARPOON WITH BARB DOWNWARDS;1LEFTWARDS~4;1LEFT ARROW BELOW;1RIGHT~2",
    "1ASTERISK ABOVE"]⟩,
  ⟨0x2100, ["ACCOUNT OF;ADDRESSED TO THE SUBJECT;DOUBLE-STRUCK CAPITAL C;DEGREE CELSIUS",
    "CENTRE LINE SYMBOL;CARE OF;CADA UNA;EULER CONSTANT;SCRUPLE;DEGREE FAHRENHEIT;SCRIPT SMALL G",
    "1CAPITAL H;BLACK-LETTER~2;DOUBLE-STRUCK~2;PLANCK CONSTANT;2OVER TWO PI;SCRIPT CAPITAL I",
    "BLACK-LETTER~2;SCRIPT CAPITAL L;1SMALL L;L B BAR SYMBOL;DOUBLE-STRUCK CAPITAL N;NUMERO SIGN",
    "SOUND RECORDING COPYRIGHT;SCRIPT CAPITAL P;DOUBLE-STRUCK~2;2Q;SCRIPT CAPITAL R;BLACK-LETTER~2",
    "DOUBLE-STRUCK~2;PRESCRIPTION TAKE;RESPONSE;SERVICE MARK;TELEPHONE SIGN;TRADE MARK~1;VERSICLE",
    "DOUBLE-STRUCK CAPITAL Z;OUNCE SIGN;OHM~1;INVERTED~2;BLACK-LETTER CAPITAL Z",
    "TURNED GREEK SMALL LETTER IOTA;KELVIN SIGN;ANGSTROM~1;SCRIPT CAPITAL B;BLACK-LETTER CAPITAL C",
    "ESTIMATED SYMBOL;SCRIPT SMALL E;1CAPITAL E;2F;TURNED~2;SCRIPT CAPITAL M;1SMALL O;ALEF SYMBOL",
    "BET~1;GIMEL~1;DALET~1;INFORMATION SOURCE;ROTATED CAPITAL Q;FACSIMILE SIGN",
    "DOUBLE-STRUCK SMALL PI;2GAMMA;1CAPITAL~1;2PI;1N-ARY SUMMATION;TURNED SANS-SERIF CAPITAL G;3L",
    "REVERSED~3;TURNED SANS-SERIF CAPITAL Y;DOUBLE-STRUCK ITALIC CAPITAL D;2SMALL D;3E;3I;3J",
    "PROPERTY LINE;TURNED AMPERSAND;PER SIGN;AKTIESELSKAB;TURNED SMALL F",
    "SYMBOL FOR SAMARITAN SOURCE;VULGAR FRACTION ONE SEVENTH;3NINTH;3TENTH;3THIRD;2TWO THIRDS",
    "2ONE FIFTH;2TWO FIFTHS;2THREE~1;2FOUR~1;2ONE SIXTH;2FIVE SIXTHS;2ONE EIGHTH;2THREE EIGHTHS",
    "2FIVE~1;2SEVEN~1;FRACTION NUMERATOR ONE;ROMAN NUMERAL~1;2TWO;2THREE;2FOUR;2FIVE;2SIX;2SEVEN",
    "2EIGHT;2NINE;2TEN;2ELEVEN;2TWELVE;2FIFTY;2ONE HUNDRED;2FIVE~1;2ONE THOUSAND",
    "SMALL ROMAN NUMERAL ONE;3TWO;3THREE;3FOUR;3FIVE;3SIX;3SEVEN;3EIGHT;3NINE;3TEN;3ELEVEN;3TWELVE",
    "3FIFTY;3ONE HUNDRED;3FIVE~1;3ONE THOUSAND;ROMAN NUMERAL ONE THOUSAND C D;2FIVE THOUSAND",
    "2TEN~1;2REVERSED ONE HUNDRED;LATIN SMALL LETTER REVERSED C;ROMAN NUMERAL SIX LATE FORM",
    "2FIFTY EARLY~1;3THOUSAND;2ONE HUNDRED~1;VULGAR FRACTION ZERO THIRDS;TURNED DIGIT TWO;2THREE"]⟩,
  ⟨0x2190, ["LEFTWARDS ARROW;UPWARDS~1;RIGHTWARDS~1;DOWNWARDS~1;LEFT RIGHT~1;UP DOWN~1",
    "NORTH WEST~1;1EAST~1;SOUTH~2;1WEST~1;LEFTWARDS ARROW WITH STROKE;RIGHTWARDS~3",
    "LEFTWARDS WAVE ARROW;RIGHTWARDS~2;LEFTWARDS TWO HEADED~1;UPWARDS~3;RIGHTWARDS~3;DOWNWARDS~3",
    "LEFTWARDS ARROW WITH TAIL;RIGHTWARDS~3;LEFTWARDS ARROW FROM BAR;UPWARDS~3;RIGHTWARDS~3",
    "DOWNWARDS~3;UP DOWN ARROW WITH BASE;LEFTWARDS ARROW WITH HOOK;RIGHTWARDS~3",
    "LEFTWARDS ARROW WITH LOOP;RIGHTWARDS~3;LEFT RIGHT WAVE ARROW;2ARROW WITH STROKE",
    "DOWNWARDS ZIGZAG ARROW;UPWARDS ARROW WITH TIP LEFTWARDS;4RIGHTWARDS",
    "DOWNWARDS ARROW WITH TIP LEFTWARDS;4RIGHTWARDS;RIGHTWARDS ARROW WITH CORNER DOWNWARDS",
    "DOWNWARDS ARROW WITH CORNER LEFTWARDS;ANTICLOCKWISE TOP SEMICIRCLE ARROW;CLOCKWISE~3",
    "NORTH WEST ARROW TO LONG BAR;LEFTWARDS ARROW TO BAR OVER RIGHTWARDS ARROW TO~1",
    "ANTICLOCKWISE OPEN CIRCLE ARROW;CLOCKWISE~3;LEFTWARDS HARPOON WITH BARB UPWARDS;4DOWNWARDS",
    "UPWARDS HARPOON WITH BARB RIGHTWARDS;4LEFTWARDS;RIGHTWARDS HARPOON WITH BARB UPWARDS",
    "4DOWNWARDS;DOWNWARDS HARPOON WITH BARB RIGHTWARDS;4LEFTWARDS",
    "RIGHTWARDS ARROW OVER LEFTWARDS ARROW;UPWARDS ARROW LEFTWARDS OF DOWNWARDS~1",
    "LEFTWARDS ARROW OVER RIGHTWARDS~1;1PAIRED ARROWS;UPWARDS~2;RIGHTWARDS~2;DOWNWARDS~2",
    "LEFTWARDS HARPOON OVER RIGHTWARDS HARPOON;RIGHTWARDS HARPOON OVER LEFTWARDS~1",
    "LEFTWARDS DOUBLE ARROW WITH STROKE;LEFT RIGHT~4;RIGHTWARDS~4;LEFTWARDS DOUBLE ARROW;UPWARDS~2",
    "RIGHTWARDS~2;DOWNWARDS~2;LEFT RIGHT~2;UP DOWN~2;NORTH WEST~2;1EAST~2;SOUTH~3;1WEST~2",
    "LEFTWARDS TRIPLE~1;RIGHTWARDS~2;LEFTWARDS SQUIGGLE~1;RIGHTWARDS~2",
    "UPWARDS ARROW WITH DOUBLE STROKE;DOWNWARDS~4;LEFTWARDS DASHED ARROW;UPWARDS~2;RIGHTWARDS~2",
    "DOWNWARDS~2;LEFTWARDS ARROW TO BAR;RIGHTWARDS~3;LEFTWARDS WHITE ARROW;UPWARDS~2;RIGHTWARDS~2",
    "DOWNWARDS~2;UPWARDS WHITE ARROW FROM BAR;3ON PEDESTAL;5WITH HORIZONTAL BAR;6VERTICAL~1",
    "2DOUBLE ARROW;4ON PEDESTAL;RIGHTWARDS WHITE ARROW FROM WALL;NORTH WEST ARROW TO CORNER",
    "SOUTH EAST~3;UP DOWN WHITE ARROW;RIGHT ARROW WITH SMALL CIRCLE",
    "DOWNWARDS ARROW LEFTWARDS OF UPWARDS ARROW;THREE RIGHTWARDS ARROWS",
    "LEFTWARDS ARROW WITH VERTICAL STROKE;RIGHTWARDS~4;LEFT RIGHT~4;LEFTWARDS ARROW WITH DOUBLE~2",
    "RIGHTWARDS~5;LEFT RIGHT~5;LEFTWARDS OPEN-HEADED ARROW;RIGHTWARDS~2;LEFT RIGHT~2;FOR ALL",
    "COMPLEMENT;PARTIAL DIFFERENTIAL;THERE EXISTS;1DOES NOT EXIST;EMPTY SET;INCREMENT;NABLA",
    "ELEMENT OF;NOT AN~2;SMALL~2;CONTAINS AS MEMBER;DOES NOT CONTAIN~2;SMALL CONTAINS~2",
    "END OF PROOF;N-ARY PRODUCT;1COPRODUCT;1SUMMATION;MINUS SIGN;MINUS-OR-PLUS~1;DOT PLUS",
    "DIVISION SLASH;SET MINUS;ASTERISK OPERATOR;RING~1;BULLET~1;SQUARE ROOT;CUBE~1;FOURTH~1",
    "PROPORTIONAL TO;INFINITY;RIGHT ANGLE;~1;MEASURED~1;SPHERICAL~1;DIVIDES;DOES NOT DIVIDE",
    "PARALLEL TO;NOT~2;LOGICAL AND;1OR;INTERSECTION;UNION;INTEGRAL;DOUBLE~1;TRIPLE~1;CONTOUR~1",
    "SURFACE~1;VOLUME~1;CLOCKWISE~1;1CONTOUR~1;ANTICLOCKWISE~2;THEREFORE;BECAUSE;RATIO;PROPORTION",
    "DOT MINUS;EXCESS;GEOMETRIC PROPORTION;HOMOTHETIC;TILDE OPERATOR;REVERSED TILDE",
    "INVERTED LAZY S;SINE WAVE;WREATH PRODUCT;NOT TILDE;MINUS~1;ASYMPTOTICALLY EQUAL TO;NOT~3",
    "APPROXIMATELY~2;1BUT NOT ACTUALLY~2;NEITHER APPROXIMATELY NOR~3;ALMOST~2;NOT~3",
    "ALMOST EQUAL OR~2;TRIPLE TILDE;ALL EQUAL TO;EQUIVALENT TO;GEOMETRICALLY~2;DIFFERENCE BETWEEN",
    "APPROACHES THE LIMIT;GEOMETRICALLY EQUAL TO;APPROXIMATELY EQUAL TO OR THE IMAGE OF",
    "IMAGE OF OR APPROXIMATELY EQUAL TO;COLON EQUALS;EQUALS COLON;RING IN EQUAL TO;1~2",
    "CORRESPONDS TO;ESTIMATES;EQUIANGULAR TO;STAR EQUALS;DELTA EQUAL TO;EQUAL TO BY DEFINITION",
    "MEASURED BY;QUESTIONED EQUAL TO;NOT~2;IDENTICAL TO;NOT~2;STRICTLY EQUIVALENT TO",
    "LESS-THAN OR EQUAL TO;GREATER-THAN~3;LESS-THAN OVER~2;GREATER-THAN~3;LESS-THAN BUT NOT~2",
    "GREATER-THAN~4;MUCH LESS-THAN;1GREATER-THAN;BETWEEN;NOT EQUIVALENT TO;1LESS-THAN",
    "1GREATER-THAN;NEITHER LESS-THAN NOR EQUAL TO;1GREATER-THAN~3;LESS-THAN OR EQUIVALENT TO",
    "GREATER-THAN~3;NEITHER LESS-THAN NOR~2;1GREATER-THAN~3;LESS-THAN OR GREATER-THAN",
    "GREATER-THAN OR LESS-THAN;NEITHER LESS-THAN NOR GREATER-THAN;1GREATER-THAN NOR LESS-THAN",
    "PRECEDES;SUCCEEDS;PRECEDES OR EQUAL TO;SUCCEEDS~3;PRECEDES OR EQUIVALENT TO;SUCCEEDS~3",
    "DOES NOT PRECEDE;2SUCCEED;SUBSET OF;SUPERSET OF;NOT A SUBSET OF;2SUPERSET OF",
    "SUBSET OF OR EQUAL TO;SUPERSET~4;NEITHER A SUBSET OF NOR~2;2SUPERSET~4;SUBSET OF WITH NOT~2",
    "SUPERSET~5;MULTISET;1MULTIPLICATION;1UNION;SQUARE IMAGE OF;1ORIGINAL OF;1IMAGE OF OR EQUAL TO",
    "1ORIGINAL~4;1CAP;1CUP;CIRCLED PLUS;1MINUS;1TIMES;1DIVISION SLASH;1DOT OPERATOR;1RING~1",
    "1ASTERISK~1;1EQUALS;1DASH;SQUARED PLUS;1MINUS;1TIMES;1DOT OPERATOR;RIGHT TACK;LEFT~1;DOWN~1",
    "UP~1;ASSERTION;MODELS;TRUE;FORCES;TRIPLE VERTICAL BAR RIGHT TURNSTILE",
    "DOUBLE VERTICAL BAR DOUBLE~2;DOES NOT PROVE;NOT TRUE;DOES NOT FORCE",
    "NEGATED DOUBLE VERTICAL BAR DOUBLE RIGHT TURNSTILE;PRECEDES UNDER RELATION;SUCCEEDS~2",
    "NORMAL SUBGROUP OF;CONTAINS AS NORMAL SUBGROUP;NORMAL SUBGROUP OF OR EQUAL TO",
    "CONTAINS AS NORMAL SUBGROUP~3;ORIGINAL OF;IMAGE OF;MULTIMAP;HERMITIAN CONJUGATE MATRIX",
    "INTERCALATE;XOR;NAND;NOR;RIGHT ANGLE WITH ARC;1TRIANGLE;N-ARY LOGICAL AND;2OR;1INTERSECTION",
    "1UNION;DIAMOND OPERATOR;DOT~1;STAR~1;DIVISION TIMES;BOWTIE",
    "LEFT NORMAL FACTOR SEMIDIRECT PRODUCT;RIGHT~4;LEFT~2;RIGHT~2;REVERSED TILDE EQUALS",
    "CURLY LOGICAL OR;2AND;DOUBLE SUBSET;1SUPERSET;1INTERSECTION;1UNION;PITCHFORK",
    "EQUAL AND PARALLEL TO;LESS-THAN WITH DOT;GREATER-THAN~2;VERY MUCH LESS-THAN;2GREATER-THAN",
    "LESS-THAN EQUAL TO OR~1;GREATER-THAN EQUAL TO OR LESS-THAN;~4;3GREATER-THAN;3PRECEDES",
    "3SUCCEEDS;DOES NOT PRECEDE OR EQUAL;2SUCCEED~2;NOT SQUARE IMAGE OF OR EQUAL TO;2ORIGINAL~4",
    "SQUARE IMAGE OF OR NOT~2;1ORIGINAL~5;LESS-THAN BUT NOT EQUIVALENT TO;GREATER-THAN~4",
    "PRECEDES~4;SUCCEEDS~4;NOT NORMAL SUBGROUP OF;DOES NOT CONTAIN AS NORMAL SUBGROUP",
    "NOT NORMAL SUBGROUP OF OR EQUAL TO;DOES NOT CONTAIN AS NORMAL SUBGROUP OR EQUAL",
    "VERTICAL ELLIPSIS;MIDLINE HORIZONTAL~1;UP RIGHT DIAGONAL~1;DOWN~3",
    "ELEMENT OF WITH LONG HORIZONTAL STROKE;3VERTICAL BAR AT END OF~2;SMALL ELEMENT~9",
    "ELEMENT OF WITH DOT ABOVE;3OVERBAR;SMALL~4;ELEMENT OF WITH UNDERBAR;3TWO HORIZONTAL STROKES",
    "CONTAINS WITH LONG HORIZONTAL STROKE;2VERTICAL BAR AT END OF~2;SMALL~9;CONTAINS WITH OVERBAR",
    "SMALL~3;Z NOTATION BAG MEMBERSHIP;DIAMETER SIGN;ELECTRIC ARROW;HOUSE;UP ARROWHEAD;DOWN~1",
    "PROJECTIVE;PERSPECTIVE;WAVY LINE;LEFT CEILING;RIGHT~1;LEFT FLOOR;RIGHT~1;BOTTOM RIGHT CROP",
    "1LEFT~1;TOP RIGHT~1;1LEFT~1;REVERSED NOT SIGN;SQUARE LOZENGE;ARC;SEGMENT;SECTOR",
    "TELEPHONE RECORDER;POSITION INDICATOR;VIEWDATA SQUARE;PLACE OF INTEREST SIGN;TURNED NOT~1",
    "WATCH;HOURGLASS;TOP LEFT CORNER;1RIGHT~1;BOTTOM LEFT~1;1RIGHT~1;TOP HALF INTEGRAL;BOTTOM~2",
    "FROWN;SMILE;UP ARROWHEAD BETWEEN TWO HORIZONTAL BARS;OPTION KEY;ERASE TO THE RIGHT",
    "X IN A RECTANGLE BOX;KEYBOARD;LEFT-POINTING ANGLE BRACKET;RIGHT-POINTING~2;ERASE TO THE LEFT",
    "BENZENE RING;CYLINDRICITY;ALL AROUND-PROFILE;SYMMETRY;TOTAL RUNOUT;DIMENSION ORIGIN",
    "CONICAL TAPER;SLOPE;COUNTERBORE;COUNTERSINK;APL FUNCTIONAL SYMBOL I-BEAM;3SQUISH QUAD",
    "3QUAD EQUAL;4DIVIDE;4DIAMOND;4JOT;4CIRCLE;3CIRCLE STILE;4JOT;3SLASH BAR;3BACKSLASH~1",
    "3QUAD SLASH;4BACKSLASH;4LESS-THAN;4GREATER-THAN;3LEFTWARDS VANE;3RIGHTWARDS~1",
    "3QUAD LEFTWARDS ARROW;4RIGHTWARDS~1;3CIRCLE BACKSLASH;3DOWN TACK UNDERBAR;3DELTA STILE",
    "3QUAD DOWN CARET;4DELTA;3DOWN TACK JOT;3UPWARDS VANE;3QUAD UPWARDS ARROW;3UP TACK OVERBAR",
    "3DEL STILE;3QUAD UP CARET;4DEL;3UP TACK JOT;3DOWNWARDS VANE;3QUAD DOWNWARDS ARROW",
    "3QUOTE UNDERBAR;3DELTA~1;3DIAMOND~1;3JOT~1;3CIRCLE~1;3UP SHOE JOT;3QUOTE QUAD;3CIRCLE STAR",
    "3QUAD COLON;3UP TACK DIAERESIS;3DEL~1;3STAR~1;3JOT~1;3CIRCLE~1;3DOWN SHOE STILE;3LEFT~2",
    "3TILDE DIAERESIS;3GREATER-THAN~1;3COMMA BAR;3DEL TILDE;3ZILDE;3STILE TILDE",
    "3SEMICOLON UNDERBAR;3QUAD NOT EQUAL;4QUESTION;3DOWN CARET TILDE;3UP~2;3IOTA;3RHO;3OMEGA",
    "3ALPHA UNDERBAR;3EPSILON~1;3IOTA~1;3OMEGA~1;3ALPHA;NOT CHECK MARK",
    "RIGHT ANGLE WITH DOWNWARDS ZIGZAG ARROW;SHOULDERED OPEN BOX;BELL SYMBOL",
    "VERTICAL LINE WITH MIDDLE DOT;INSERTION SYMBOL;CONTINUOUS UNDERLINE~1;DISCONTINUOUS~2",
    "EMPHASIS~1;COMPOSITION~1;WHITE SQUARE WITH CENTRE VERTICAL LINE;ENTER SYMBOL",
    "ALTERNATIVE KEY~1;HELM~1;CIRCLED HORIZONTAL BAR WITH NOTCH;1TRIANGLE DOWN",
    "BROKEN CIRCLE WITH NORTHWEST ARROW;UNDO SYMBOL;MONOSTABLE~1;HYSTERESIS~1",
    "OPEN-CIRCUIT-OUTPUT H-TYPE~1;1L-TYPE~1;PASSIVE-PULL-DOWN-OUTPUT~1;PASSIVE-PULL-UP-OUTPUT~1",
    "DIRECT CURRENT SYMBOL FORM TWO;SOFTWARE-FUNCTION SYMBOL;APL FUNCTIONAL SYMBOL QUAD",
    "DECIMAL SEPARATOR KEY SYMBOL;PREVIOUS PAGE;NEXT~1;PRINT SCREEN SYMBOL;CLEAR~2",
    "LEFT PARENTHESIS UPPER HOOK;2EXTENSION;2LOWER HOOK;RIGHT PARENTHESIS UPPER~1;2EXTENSION",
    "2LOWER HOOK;LEFT SQUARE BRACKET UPPER CORNER;3EXTENSION;3LOWER CORNER",
    "RIGHT SQUARE BRACKET UPPER~1;3EXTENSION;3LOWER CORNER;LEFT CURLY BRACKET UPPER HOOK",
    "3MIDDLE PIECE;3LOWER HOOK;CURLY BRACKET EXTENSION;RIGHT CURLY BRACKET UPPER HOOK",
    "3MIDDLE PIECE;3LOWER HOOK;INTEGRAL EXTENSION;HORIZONTAL LINE~1",
    "UPPER LEFT OR LOWER RIGHT CURLY BRACKET SECTION;1RIGHT OR LOWER LEFT~3;SUMMATION TOP;1BOTTOM",
    "TOP SQUARE BRACKET;BOTTOM~2;3OVER TOP SQUARE BRACKET;RADICAL SYMBOL BOTTOM",
    "LEFT VERTICAL BOX LINE;RIGHT~3;HORIZONTAL SCAN LINE-1;2LINE-3;2LINE-7;2LINE-9",
    "DENTISTRY SYMBOL LIGHT VERTICAL AND TOP RIGHT;5BOTTOM~1;4WITH CIRCLE;3DOWN AND HORIZONTAL~2",
    "3UP~4;3VERTICAL WITH TRIANGLE;3DOWN AND HORIZONTAL~2;3UP~4;3VERTICAL AND WAVE",
    "3DOWN AND HORIZONTAL WITH~1;3UP~4;3DOWN AND HORIZONTAL;3UP~2;3VERTICAL AND TOP LEFT;5BOTTOM~1",
    "SQUARE FOOT;RETURN SYMBOL;EJECT~1;VERTICAL LINE EXTENSION;METRICAL BREVE;1LONG OVER SHORT",
    "1SHORT OVER LONG;1LONG OVER TWO SHORTS;1TWO SHORTS OVER LONG;3JOINED;1TRISEME;1TETRASEME",
    "1PENTASEME;EARTH GROUND;FUSE;TOP PARENTHESIS;BOTTOM~1;TOP CURLY BRACKET;BOTTOM~2",
    "TOP TORTOISE SHELL~1;BOTTOM~3;WHITE TRAPEZIUM;BENZENE RING WITH CIRCLE;STRAIGHTNESS;FLATNESS",
    "AC CURRENT;ELECTRICAL INTERSECTION;DECIMAL EXPONENT SYMBOL",
    "BLACK RIGHT-POINTING DOUBLE TRIANGLE;1LEFT-POINTING~2;1UP-POINTING~2;1DOWN-POINTING~2",
    "1RIGHT-POINTING DOUBLE TRIANGLE WITH VERTICAL BAR;1LEFT-POINTING~5",
    "1RIGHT-POINTING TRIANGLE WITH DOUBLE~2;ALARM CLOCK;STOPWATCH;TIMER CLOCK",
    "HOURGLASS WITH FLOWING SAND;BLACK MEDIUM LEFT-POINTING TRIANGLE;2RIGHT-POINTING~1",
    "2UP-POINTING~1;2DOWN-POINTING~1;DOUBLE VERTICAL BAR;BLACK SQUARE FOR STOP;1CIRCLE FOR RECORD",
    "POWER SYMBOL;1ON-OFF~1;1ON~1;1SLEEP~1;OBSERVER EYE~1;SYMBOL FOR NULL;2START OF HEADING;4TEXT",
    "2END~2;4TRANSMISSION;2ENQUIRY;2ACKNOWLEDGE;2BELL;2BACKSPACE;2HORIZONTAL TABULATION;2LINE FEED",
    "2VERTICAL TABULATION;2FORM FEED;2CARRIAGE RETURN;2SHIFT OUT;3IN;2DATA LINK ESCAPE",
    "2DEVICE CONTROL ONE;4TWO;4THREE;4FOUR;2NEGATIVE ACKNOWLEDGE;2SYNCHRONOUS IDLE",
    "2END OF TRANSMISSION BLOCK;2CANCEL;2END OF MEDIUM;2SUBSTITUTE;2ESCAPE;2FILE SEPARATOR",
    "2GROUP~1;2RECORD~1;2UNIT~1;2SPACE;2DELETE;BLANK SYMBOL;OPEN BOX;SYMBOL FOR NEWLINE",
    "2DELETE FORM TWO;2SUBSTITUTE~2"]⟩,
  ⟨0x2440, ["OCR HOOK;1CHAIR;1FORK;1INVERTED~1;1BELT BUCKLE;1BOW TIE;1BRANCH BANK IDENTIFICATION",
    "1AMOUNT OF CHECK;1DASH;1CUSTOMER ACCOUNT NUMBER;1DOUBLE BACKSLASH"]⟩,
  ⟨0x2460, ["CIRCLED DIGIT ONE;2TWO;2THREE;2FOUR;2FIVE;2SIX;2SEVEN;2EIGHT;2NINE;1NUMBER TEN",
    "2ELEVEN;2TWELVE;2THIRTEEN;2FOURTEEN;2FIFTEEN;2SIXTEEN;2SEVENTEEN;2EIGHTEEN;2NINETEEN;2TWENTY",
    "PARENTHESIZED DIGIT ONE;2TWO;2THREE;2FOUR;2FIVE;2SIX;2SEVEN;2EIGHT;2NINE;1NUMBER TEN;2ELEVEN",
    "2TWELVE;2THIRTEEN;2FOURTEEN;2FIFTEEN;2SIXTEEN;2SEVENTEEN;2EIGHTEEN;2NINETEEN;2TWENTY",
    "DIGIT ONE FULL STOP;1TWO~2;1THREE~2;1FOUR~2;1FIVE~2;1SIX~2;1SEVEN~2;1EIGHT~2;1NINE~2",
    "NUMBER TEN~2;1ELEVEN~2;1TWELVE~2;1THIRTEEN~2;1FOURTEEN~2;1FIFTEEN~2;1SIXTEEN~2;1SEVENTEEN~2",
    "1EIGHTEEN~2;1NINETEEN~2;1TWENTY~2;PARENTHESIZED LATIN SMALL LETTER A;4B;4C;4D;4E;4F;4G;4H;4I",
    "4J;4K;4L;4M;4N;4O;4P;4Q;4R;4S;4T;4U;4V;4W;4X;4Y;4Z;CIRCLED LATIN CAPITAL LETTER A;4B;4C;4D;4E",
    "4F;4G;4H;4I;4J;4K;4L;4M;4N;4O;4P;4Q;4R;4S;4T;4U;4V;4W;4X;4Y;4Z;2SMALL LETTER A;4B;4C;4D;4E;4F",
    "4G;4H;4I;4J;4K;4L;4M;4N;4O;4P;4Q;4R;4S;4T;4U;4V;4W;4X;4Y;4Z;1DIGIT ZERO",
    "NEGATIVE CIRCLED NUMBER ELEVEN;3TWELVE;3THIRTEEN;3FOURTEEN;3FIFTEEN;3SIXTEEN;3SEVENTEEN",
    "3EIGHTEEN;3NINETEEN;3TWENTY;DOUBLE CIRCLED DIGIT ONE;3TWO;3THREE;3FOUR;3FIVE;3SIX;3SEVEN",
    "3EIGHT;3NINE;2NUMBER TEN;NEGATIVE CIRCLED DIGIT ZERO;BOX DRAWINGS LIGHT HORIZONTAL;2HEAVY~1",
    "2LIGHT VERTICAL;2HEAVY~1;2LIGHT TRIPLE DASH HORIZONTAL;2HEAVY~3;2LIGHT TRIPLE DASH VERTICAL",
    "2HEAVY~3;2LIGHT QUADRUPLE DASH HORIZONTAL;2HEAVY~3;2LIGHT QUADRUPLE DASH VERTICAL;2HEAVY~3",
    "2LIGHT DOWN AND RIGHT;2DOWN LIGHT AND RIGHT HEAVY;3HEAVY AND RIGHT LIGHT",
    "2HEAVY DOWN AND RIGHT;2LIGHT DOWN AND LEFT;2DOWN LIGHT AND LEFT HEAVY;3HEAVY AND LEFT LIGHT",
    "2HEAVY DOWN AND LEFT;2LIGHT UP AND RIGHT;2UP LIGHT AND RIGHT HEAVY;3HEAVY AND RIGHT LIGHT",
    "2HEAVY UP AND RIGHT;2LIGHT UP AND LEFT;2UP LIGHT AND LEFT HEAVY;3HEAVY AND LEFT LIGHT",
    "2HEAVY UP AND LEFT;2LIGHT VERTICAL AND RIGHT;2VERTICAL LIGHT AND RIGHT HEAVY",
    "2UP HEAVY AND RIGHT DOWN LIGHT;2DOWN HEAVY AND RIGHT UP~1;2VERTICAL HEAVY AND RIGHT~1",
    "2DOWN LIGHT AND RIGHT UP HEAVY;2UP LIGHT AND RIGHT DOWN~1;2HEAVY VERTICAL AND RIGHT",
    "2LIGHT VERTICAL AND LEFT;2VERTICAL LIGHT AND LEFT HEAVY;2UP HEAVY AND LEFT DOWN LIGHT",
    "2DOWN HEAVY AND LEFT UP~1;2VERTICAL HEAVY AND LEFT~1;2DOWN LIGHT AND LEFT UP HEAVY",
    "2UP LIGHT AND LEFT DOWN~1;2HEAVY VERTICAL AND LEFT;2LIGHT DOWN AND HORIZONTAL",
    "2LEFT HEAVY AND RIGHT DOWN LIGHT;2RIGHT HEAVY AND LEFT~2;2DOWN LIGHT AND HORIZONTAL HEAVY",
    "3HEAVY AND HORIZONTAL LIGHT;2RIGHT LIGHT AND LEFT DOWN HEAVY;2LEFT LIGHT AND RIGHT~2",
    "2HEAVY DOWN AND HORIZONTAL;2LIGHT UP~2;2LEFT HEAVY AND RIGHT UP LIGHT;2RIGHT HEAVY AND LEFT~2",
    "2UP LIGHT AND HORIZONTAL HEAVY;3HEAVY AND HORIZONTAL LIGHT;2RIGHT LIGHT AND LEFT UP HEAVY",
    "2LEFT LIGHT AND RIGHT~2;2HEAVY UP AND HORIZONTAL;2LIGHT VERTICAL~2",
    "2LEFT HEAVY AND RIGHT VERTICAL LIGHT;2RIGHT HEAVY AND LEFT~2",
    "2VERTICAL LIGHT AND HORIZONTAL HEAVY;2UP HEAVY AND DOWN HORIZONTAL LIGHT;2DOWN HEAVY AND UP~2",
    "2VERTICAL HEAVY AND~2;2LEFT UP HEAVY AND RIGHT DOWN~1;2RIGHT UP HEAVY AND LEFT~2",
    "2LEFT DOWN HEAVY AND RIGHT UP~1;2RIGHT DOWN HEAVY AND LEFT~2",
    "2DOWN LIGHT AND UP HORIZONTAL HEAVY;2UP LIGHT AND DOWN~2;2RIGHT LIGHT AND LEFT VERTICAL~1",
    "2LEFT LIGHT AND RIGHT~2;2HEAVY VERTICAL AND HORIZONTAL;2LIGHT DOUBLE DASH~1;2HEAVY~3",
    "2LIGHT DOUBLE DASH VERTICAL;2HEAVY~3;2DOUBLE HORIZONTAL;3VERTICAL",
    "2DOWN SINGLE AND RIGHT DOUBLE;3DOUBLE AND RIGHT SINGLE;2DOUBLE DOWN AND RIGHT",
    "2DOWN SINGLE AND LEFT DOUBLE;3DOUBLE AND LEFT SINGLE;2DOUBLE DOWN AND LEFT",
    "2UP SINGLE AND RIGHT DOUBLE;3DOUBLE AND RIGHT SINGLE;2DOUBLE UP AND RIGHT",
    "2UP SINGLE AND LEFT DOUBLE;3DOUBLE AND LEFT SINGLE;2DOUBLE UP AND LEFT",
    "2VERTICAL SINGLE AND RIGHT DOUBLE;3DOUBLE AND RIGHT SINGLE;2DOUBLE VERTICAL AND RIGHT",
    "2VERTICAL SINGLE AND LEFT DOUBLE;3DOUBLE AND LEFT SINGLE;2DOUBLE VERTICAL AND LEFT",
    "2DOWN SINGLE AND HORIZONTAL DOUBLE;3DOUBLE AND HORIZONTAL SINGLE;2DOUBLE DOWN AND HORIZONTAL",
    "2UP SINGLE AND HORIZONTAL DOUBLE;3DOUBLE AND HORIZONTAL SINGLE;2DOUBLE UP AND HORIZONTAL",
    "2VERTICAL SINGLE AND HORIZONTAL DOUBLE;3DOUBLE AND HORIZONTAL SINGLE",
    "2DOUBLE VERTICAL AND HORIZONTAL;2LIGHT ARC DOWN AND RIGHT;6LEFT;4UP~2;6RIGHT",
    "3DIAGONAL UPPER RIGHT TO LOWER LEFT;5LEFT TO LOWER RIGHT;4CROSS;3LEFT;3UP;3RIGHT;3DOWN",
    "2HEAVY LEFT;3UP;3RIGHT;3DOWN;2LIGHT LEFT AND HEAVY RIGHT;3UP AND HEAVY DOWN",
    "2HEAVY LEFT AND LIGHT RIGHT;3UP AND LIGHT DOWN;UPPER HALF BLOCK;LOWER ONE EIGHTH~1;2QUARTER~1",
    "1THREE EIGHTHS~1;1HALF~1;1FIVE EIGHTHS~1;1THREE QUARTERS~1;1SEVEN EIGHTHS~1;FULL~1",
    "LEFT SEVEN EIGHTHS~1;1THREE QUARTERS~1;1FIVE EIGHTHS~1;1HALF~1;1THREE EIGHTHS~1",
    "1ONE QUARTER~1;2EIGHTH~1;RIGHT HALF~1;LIGHT SHADE;MEDIUM~1;DARK~1;UPPER ONE EIGHTH BLOCK",
    "RIGHT~3;QUADRANT LOWER LEFT;2RIGHT;1UPPER LEFT;3AND LOWER LEFT AND LOWER RIGHT;5~1",
    "4UPPER RIGHT AND LOWER LEFT;8RIGHT;2~1;3AND LOWER LEFT;6AND LOWER RIGHT;BLACK SQUARE;WHITE~1",
    "2WITH ROUNDED CORNERS;2CONTAINING BLACK SMALL SQUARE;SQUARE WITH HORIZONTAL FILL;2VERTICAL~1",
    "2ORTHOGONAL CROSSHATCH~1;2UPPER LEFT TO LOWER RIGHT~1;3RIGHT TO LOWER LEFT~1",
    "2DIAGONAL CROSSHATCH~1;BLACK SMALL SQUARE;WHITE~2;BLACK RECTANGLE;WHITE~1;BLACK VERTICAL~1",
    "WHITE~2;BLACK PARALLELOGRAM;WHITE~1;BLACK UP-POINTING TRIANGLE;WHITE~2",
    "BLACK UP-POINTING SMALL~1;WHITE~3;BLACK RIGHT-POINTING~1;WHITE~2;BLACK RIGHT-POINTING SMALL~1",
    "WHITE~3;BLACK RIGHT-POINTING POINTER;WHITE~2;BLACK DOWN-POINTING TRIANGLE;WHITE~2",
    "BLACK DOWN-POINTING SMALL~1;WHITE~3;BLACK LEFT-POINTING~1;WHITE~2;BLACK LEFT-POINTING SMALL~1",
    "WHITE~3;BLACK LEFT-POINTING POINTER;WHITE~2;BLACK DIAMOND;WHITE~1",
    "2CONTAINING BLACK SMALL DIAMOND;FISHEYE;LOZENGE;WHITE CIRCLE;DOTTED~1",
    "CIRCLE WITH VERTICAL FILL;BULLSEYE;BLACK CIRCLE;CIRCLE WITH LEFT HALF BLACK;2RIGHT~2;2LOWER~2",
    "2UPPER~2;3RIGHT QUADRANT~1;2ALL BUT UPPER LEFT~2;LEFT HALF BLACK CIRCLE;RIGHT~3",
    "INVERSE BULLET;1WHITE CIRCLE;UPPER HALF~3;LOWER~4;UPPER LEFT QUADRANT CIRCULAR ARC;1RIGHT~3",
    "LOWER~4;1LEFT~3;UPPER HALF CIRCLE;LOWER~2;BLACK LOWER RIGHT TRIANGLE;2LEFT~1;1UPPER~2",
    "2RIGHT~1;WHITE BULLET;SQUARE WITH LEFT HALF BLACK;2RIGHT~2;2UPPER LEFT DIAGONAL~2",
    "2LOWER RIGHT~3;WHITE SQUARE WITH VERTICAL BISECTING LINE;1UP-POINTING TRIANGLE WITH DOT",
    "UP-POINTING TRIANGLE WITH LEFT HALF BLACK;3RIGHT~2;LARGE CIRCLE",
    "WHITE SQUARE WITH UPPER LEFT QUADRANT;3LOWER~2;4RIGHT~1;3UPPER~2;1CIRCLE WITH UPPER LEFT~1",
    "3LOWER~2;4RIGHT~1;3UPPER~2;UPPER LEFT TRIANGLE;1RIGHT~1;LOWER LEFT~1;WHITE MEDIUM SQUARE",
    "BLACK~2;WHITE MEDIUM SMALL~1;BLACK~3;LOWER RIGHT TRIANGLE;BLACK SUN WITH RAYS;CLOUD;UMBRELLA",
    "SNOWMAN;COMET;BLACK STAR;WHITE~1;LIGHTNING;THUNDERSTORM;SUN;ASCENDING NODE;DESCENDING~1",
    "CONJUNCTION;OPPOSITION;BLACK TELEPHONE;WHITE~1;BALLOT BOX;2WITH CHECK;3X;SALTIRE",
    "UMBRELLA WITH RAIN DROPS;HOT BEVERAGE;WHITE SHOGI PIECE;BLACK~2;SHAMROCK",
    "REVERSED ROTATED FLORAL HEART BULLET;BLACK LEFT POINTING INDEX;1RIGHT~2;WHITE LEFT~2;1UP~2",
    "1RIGHT~2;1DOWN~2;SKULL AND CROSSBONES;CAUTION SIGN;RADIOACTIVE~1;BIOHAZARD~1;CADUCEUS;ANKH",
    "ORTHODOX CROSS;CHI RHO;CROSS OF LORRAINE;2JERUSALEM;STAR AND CRESCENT;FARSI SYMBOL;ADI SHAKTI",
    "HAMMER AND SICKLE;PEACE SYMBOL;YIN YANG;TRIGRAM FOR HEAVEN;2LAKE;2FIRE;2THUNDER;2WIND;2WATER",
    "2MOUNTAIN;2EARTH;WHEEL OF DHARMA;WHITE FROWNING FACE;1SMILING~1;BLACK~2;WHITE SUN WITH RAYS",
    "FIRST QUARTER MOON;LAST~2;MERCURY;FEMALE SIGN;EARTH;MALE SIGN;JUPITER;SATURN;URANUS;NEPTUNE",
    "PLUTO;ARIES;TAURUS;GEMINI;CANCER;LEO;VIRGO;LIBRA;SCORPIUS;SAGITTARIUS;CAPRICORN;AQUARIUS",
    "PISCES;WHITE CHESS KING;2QUEEN;2ROOK;2BISHOP;2KNIGHT;2PAWN;BLACK CHESS KING;2QUEEN;2ROOK",
    "2BISHOP;2KNIGHT;2PAWN;1SPADE SUIT;WHITE HEART~1;1DIAMOND~1;BLACK CLUB~1;WHITE SPADE~1",
    "BLACK HEART~1;1DIAMOND~1;WHITE CLUB~1;HOT SPRINGS;QUARTER NOTE;EIGHTH~1;BEAMED EIGHTH NOTES",
    "1SIXTEENTH~1;MUSIC FLAT SIGN;1NATURAL~1;1SHARP~1;WEST SYRIAC CROSS;EAST~2",
    "UNIVERSAL RECYCLING SYMBOL;RECYCLING SYMBOL FOR TYPE-1 PLASTICS;3TYPE-2~1;3TYPE-3~1;3TYPE-4~1",
    "3TYPE-5~1;3TYPE-6~1;3TYPE-7~1;3GENERIC MATERIALS;BLACK UNIVERSAL RECYCLING SYMBOL",
    "RECYCLED PAPER~1;PARTIALLY-RECYCLED~2;PERMANENT PAPER SIGN;WHEELCHAIR SYMBOL;DIE FACE-1",
    "1FACE-2;1FACE-3;1FACE-4;1FACE-5;1FACE-6;WHITE CIRCLE WITH DOT RIGHT;3TWO DOTS",
    "BLACK CIRCLE WITH WHITE DOT RIGHT;3TWO WHITE DOTS;MONOGRAM FOR YANG;2YIN",
    "DIGRAM FOR GREATER YANG;2LESSER YIN;3YANG;2GREATER YIN;WHITE FLAG;BLACK~1;HAMMER AND PICK",
    "ANCHOR;CROSSED SWORDS;STAFF OF AESCULAPIUS;SCALES;ALEMBIC;FLOWER;GEAR;STAFF OF HERMES",
    "ATOM SYMBOL;FLEUR-DE-LIS;OUTLINED WHITE STAR;THREE LINES CONVERGING RIGHT;3LEFT;WARNING SIGN",
    "HIGH VOLTAGE~1;DOUBLED FEMALE~1;1MALE~1;INTERLOCKED FEMALE AND~2;MALE AND FEMALE~1",
    "1WITH STROKE~1;3AND MALE AND FEMALE~1;VERTICAL MALE WITH STROKE~1;HORIZONTAL~4",
    "MEDIUM WHITE CIRCLE;1BLACK~1;1SMALL WHITE~1;MARRIAGE SYMBOL;DIVORCE~1;UNMARRIED PARTNERSHIP~1",
    "COFFIN;FUNERAL URN;NEUTER;CERES;PALLAS;JUNO;VESTA;CHIRON;BLACK MOON LILITH;SEXTILE",
    "SEMISEXTILE;QUINCUNX;SESQUIQUADRATE;SOCCER BALL;BASEBALL;SQUARED KEY;WHITE DRAUGHTS MAN;2KING",
    "BLACK DRAUGHTS MAN;2KING;SNOWMAN WITHOUT SNOW;SUN BEHIND CLOUD;RAIN;BLACK SNOWMAN",
    "THUNDER CLOUD AND RAIN;TURNED WHITE SHOGI PIECE;1BLACK~2;WHITE DIAMOND IN SQUARE",
    "CROSSING LANES;DISABLED CAR;OPHIUCHUS;PICK;CAR SLIDING;HELMET WITH WHITE CROSS",
    "CIRCLED CROSSING LANES;CHAINS;NO ENTRY;ALTERNATE ONE-WAY LEFT WAY TRAFFIC;BLACK TWO-WAY~3",
    "WHITE~4;BLACK LEFT LANE MERGE;WHITE~3;DRIVE SLOW SIGN;HEAVY WHITE DOWN-POINTING TRIANGLE",
    "LEFT CLOSED ENTRY;SQUARED SALTIRE;FALLING DIAGONAL IN WHITE CIRCLE IN BLACK SQUARE",
    "BLACK TRUCK;RESTRICTED LEFT ENTRY-1;2ENTRY-2;ASTRONOMICAL SYMBOL FOR URANUS",
    "HEAVY CIRCLE WITH STROKE AND TWO DOTS ABOVE;PENTAGRAM;RIGHT-HANDED INTERLACED~1;LEFT-HANDED~2",
    "INVERTED~1;BLACK CROSS ON SHIELD;SHINTO SHRINE;CHURCH;CASTLE;HISTORIC SITE;GEAR WITHOUT HUB",
    "1WITH HANDLES;MAP SYMBOL FOR LIGHTHOUSE;MOUNTAIN;UMBRELLA ON GROUND;FOUNTAIN;FLAG IN HOLE",
    "FERRY;SAILBOAT;SQUARE FOUR CORNERS;SKIER;ICE SKATE;PERSON WITH BALL;TENT;JAPANESE BANK SYMBOL",
    "HEADSTONE GRAVEYARD~1;FUEL PUMP;CUP ON BLACK SQUARE",
    "WHITE FLAG WITH HORIZONTAL MIDDLE BLACK STRIPE;BLACK SAFETY SCISSORS;UPPER BLADE~1;BLACK~1",
    "LOWER BLADE~1;WHITE~1;1HEAVY CHECK MARK;TELEPHONE LOCATION SIGN;TAPE DRIVE;AIRPLANE;ENVELOPE",
    "RAISED FIST;1HAND;VICTORY~1;WRITING~1;LOWER RIGHT PENCIL;~1;UPPER RIGHT~1;WHITE NIB;BLACK~1",
    "CHECK MARK;HEAVY~2;MULTIPLICATION X;HEAVY~2;BALLOT X;HEAVY~2;OUTLINED GREEK CROSS;HEAVY~2",
    "OPEN CENTRE~1;HEAVY~3;LATIN~1;SHADOWED WHITE~2;OUTLINED~2;MALTESE~1;STAR OF DAVID",
    "FOUR TEARDROP-SPOKED ASTERISK;1BALLOON-SPOKED~1;HEAVY~3;FOUR CLUB-SPOKED~1",
    "BLACK FOUR POINTED STAR;WHITE~3;SPARKLES;STRESS OUTLINED WHITE STAR;CIRCLED~2",
    "OPEN CENTRE BLACK~1;BLACK CENTRE WHITE~1;OUTLINED BLACK~1;HEAVY~3;PINWHEEL~1;SHADOWED WHITE~1",
    "HEAVY ASTERISK;OPEN CENTRE~1;EIGHT SPOKED~1;1POINTED BLACK STAR;2PINWHEEL~1",
    "SIX POINTED BLACK~1;EIGHT POINTED RECTILINEAR~2;HEAVY~5;TWELVE POINTED~2",
    "SIXTEEN POINTED ASTERISK;TEARDROP-SPOKED~1;OPEN CENTRE~2;HEAVY~2",
    "SIX PETALLED BLACK AND WHITE FLORETTE;BLACK~1;WHITE~1;EIGHT PETALLED OUTLINED BLACK~1",
    "CIRCLED OPEN CENTRE EIGHT POINTED STAR;HEAVY TEARDROP-SPOKED PINWHEEL ASTERISK;SNOWFLAKE",
    "TIGHT TRIFOLIATE~1;HEAVY CHEVRON~1;SPARKLE;HEAVY~1;BALLOON-SPOKED ASTERISK",
    "EIGHT TEARDROP-SPOKED PROPELLER~1;HEAVY~4;CROSS MARK;SHADOWED WHITE CIRCLE",
    "NEGATIVE SQUARED CROSS MARK;LOWER RIGHT DROP-SHADOWED WHITE SQUARE;UPPER~4",
    "LOWER RIGHT SHADOWED~2;UPPER~4;BLACK QUESTION MARK ORNAMENT;WHITE~3;1EXCLAMATION~2",
    "BLACK DIAMOND MINUS WHITE X;HEAVY EXCLAMATION MARK SYMBOL;LIGHT VERTICAL BAR;MEDIUM~2;HEAVY~2",
    "1SINGLE TURNED COMMA QUOTATION MARK ORNAMENT;2~4;1DOUBLE TURNED~4;2~4;1LOW SINGLE~4;2DOUBLE~4",
    "CURVED STEM PARAGRAPH SIGN~1;HEAVY EXCLAMATION MARK~1;1HEART~3;1BLACK HEART",
    "ROTATED HEAVY BLACK HEART BULLET;FLORAL HEART;ROTATED FLORAL HEART BULLET",
    "MEDIUM LEFT PARENTHESIS ORNAMENT;1RIGHT~2;1FLATTENED LEFT~2;2RIGHT~2",
    "1LEFT-POINTING ANGLE BRACKET~1;1RIGHT-POINTING~3;HEAVY LEFT-POINTING ANGLE QUOTATION MARK~1",
    "1RIGHT-POINTING~4;1LEFT-POINTING ANGLE BRACKET~1;1RIGHT-POINTING~3",
    "LIGHT LEFT TORTOISE SHELL~2;1RIGHT~4;MEDIUM LEFT CURLY~2;1RIGHT~3",
    "DINGBAT NEGATIVE CIRCLED DIGIT ONE;4TWO;4THREE;4FOUR;4FIVE;4SIX;4SEVEN;4EIGHT;4NINE",
    "3NUMBER TEN;1CIRCLED SANS-SERIF DIGIT ONE;4TWO;4THREE;4FOUR;4FIVE;4SIX;4SEVEN;4EIGHT;4NINE",
    "3NUMBER TEN;1NEGATIVE CIRCLED SANS-SERIF DIGIT ONE;5TWO;5THREE;5FOUR;5FIVE;5SIX;5SEVEN;5EIGHT",
    "5NINE;4NUMBER TEN;HEAVY WIDE-HEADED RIGHTWARDS ARROW;1PLUS SIGN;1MINUS~1;1DIVISION~1",
    "1SOUTH EAST ARROW;1RIGHTWARDS~1;1NORTH EAST~1;DRAFTING POINT RIGHTWARDS~1",
    "HEAVY ROUND-TIPPED~2;TRIANGLE-HEADED~2;HEAVY~3;DASHED~3;HEAVY~4;BLACK~2",
    "THREE-D TOP-LIGHTED RIGHTWARDS ARROWHEAD;1BOTTOM-LIGHTED~2;BLACK~2",
    "HEAVY BLACK CURVED DOWNWARDS AND RIGHTWARDS ARROW;3UPWARDS~3;SQUAT BLACK~2",
    "HEAVY CONCAVE-POINTED~3;RIGHT-SHADED WHITE~2;LEFT-SHADED~3;BACK-TILTED SHADOWED~3",
    "FRONT-TILTED~4;HEAVY LOWER RIGHT-SHADOWED~3;1UPPER~4;NOTCHED LOWER~4;CURLY LOOP",
    "NOTCHED UPPER RIGHT-SHADOWED WHITE RIGHTWARDS ARROW;CIRCLED HEAVY~3;WHITE-FEATHERED~2",
    "BLACK-FEATHERED SOUTH EAST~1;1RIGHTWARDS~1;1NORTH EAST~1;HEAVY BLACK-FEATHERED SOUTH~2",
    "2RIGHTWARDS~1;2NORTH EAST~1;TEARDROP-BARBED RIGHTWARDS~1;HEAVY TEARDROP-SHANKED~2",
    "WEDGE-TAILED~2;HEAVY~3;OPEN-OUTLINED~2;DOUBLE CURLY LOOP;THREE DIMENSIONAL ANGLE",
    "WHITE TRIANGLE CONTAINING SMALL WHITE TRIANGLE;PERPENDICULAR;OPEN SUBSET;1SUPERSET",
    "LEFT S-SHAPED BAG DELIMITER;RIGHT~3;OR WITH DOT INSIDE;REVERSE SOLIDUS PRECEDING SUBSET",
    "SUPERSET PRECEDING SOLIDUS;VERTICAL BAR WITH HORIZONTAL STROKE;MATHEMATICAL RISING DIAGONAL",
    "LONG DIVISION;MATHEMATICAL FALLING DIAGONAL;SQUARED LOGICAL AND;2OR",
    "WHITE DIAMOND WITH CENTRED DOT;AND WITH~1;ELEMENT OF OPENING UPWARDS",
    "LOWER RIGHT CORNER WITH DOT;UPPER LEFT~3;LEFT OUTER JOIN;RIGHT~2;FULL~2;LARGE UP TACK;1DOWN~1",
    "LEFT AND RIGHT DOUBLE TURNSTILE;3TACK;1MULTIMAP;LONG RIGHT TACK;1LEFT~1",
    "UP TACK WITH CIRCLE ABOVE;LOZENGE DIVIDED BY HORIZONTAL RULE;WHITE CONCAVE-SIDED DIAMOND",
    "3WITH LEFTWARDS TICK;4RIGHTWARDS~1;1SQUARE WITH LEFTWARDS~1;3RIGHTWARDS~1",
    "MATHEMATICAL LEFT WHITE SQUARE BRACKET;1RIGHT~3;1LEFT ANGLE~1;1RIGHT~2;1LEFT DOUBLE~2",
    "1RIGHT~3;1LEFT WHITE TORTOISE SHELL~1;1RIGHT~4;1LEFT FLATTENED PARENTHESIS;1RIGHT~2",
    "UPWARDS QUADRUPLE ARROW;DOWNWARDS~2;ANTICLOCKWISE GAPPED CIRCLE~1;CLOCKWISE~3",
    "RIGHT ARROW WITH CIRCLED PLUS;LONG LEFTWARDS ARROW;1RIGHTWARDS~1;1LEFT RIGHT~1",
    "1LEFTWARDS DOUBLE~1;1RIGHTWARDS~2;1LEFT RIGHT~2;1LEFTWARDS ARROW FROM BAR;1RIGHTWARDS~3",
    "1LEFTWARDS DOUBLE~3;1RIGHTWARDS~4;2SQUIGGLE ARROW;BRAILLE PATTERN BLANK"]⟩,
  ⟨0x2900, ["RIGHTWARDS TWO-HEADED ARROW WITH VERTICAL STROKE;4DOUBLE~2",
    "LEFTWARDS DOUBLE ARROW WITH~2;RIGHTWARDS~5;LEFT RIGHT~5;RIGHTWARDS TWO-HEADED ARROW FROM BAR",
    "LEFTWARDS DOUBLE~3;RIGHTWARDS~4;DOWNWARDS ARROW WITH HORIZONTAL STROKE;UPWARDS~4",
    "1TRIPLE ARROW;DOWNWARDS~2;LEFTWARDS DOUBLE DASH~1;RIGHTWARDS~3;LEFTWARDS TRIPLE~2",
    "RIGHTWARDS~3;1TWO-HEADED~3;1ARROW WITH DOTTED STEM;UPWARDS ARROW TO BAR;DOWNWARDS~3",
    "RIGHTWARDS ARROW WITH TAIL WITH VERTICAL STROKE;5DOUBLE~2;1TWO-HEADED ARROW WITH TAIL",
    "5WITH VERTICAL STROKE;6DOUBLE~2;LEFTWARDS ARROW-TAIL;RIGHTWARDS~1;LEFTWARDS DOUBLE~1",
    "RIGHTWARDS~2;LEFTWARDS ARROW TO BLACK DIAMOND;RIGHTWARDS~4;LEFTWARDS ARROW FROM BAR~3",
    "RIGHTWARDS~6;NORTH WEST AND SOUTH EAST ARROW;1EAST AND SOUTH WEST~1;1WEST ARROW WITH HOOK",
    "1EAST~3;SOUTH~4;1WEST~3;NORTH WEST ARROW AND NORTH EAST ARROW;1EAST ARROW AND SOUTH~2",
    "SOUTH EAST ARROW AND SOUTH WEST~1;1WEST ARROW AND NORTH~2",
    "RISING DIAGONAL CROSSING FALLING DIAGONAL;FALLING DIAGONAL CROSSING RISING~1",
    "SOUTH EAST ARROW CROSSING NORTH EAST ARROW;NORTH EAST ARROW CROSSING SOUTH~2",
    "FALLING DIAGONAL CROSSING NORTH~2;RISING DIAGONAL CROSSING SOUTH~2",
    "NORTH EAST ARROW CROSSING NORTH WEST~1;1WEST ARROW CROSSING NORTH EAST~1",
    "WAVE ARROW POINTING DIRECTLY RIGHT;ARROW POINTING RIGHTWARDS THEN CURVING UPWARDS;5DOWNWARDS",
    "2DOWNWARDS THEN CURVING LEFTWARDS;5RIGHTWARDS;RIGHT-SIDE ARC CLOCKWISE ARROW",
    "LEFT-SIDE ARC ANTICLOCKWISE~1;TOP~3;BOTTOM~3;TOP ARC CLOCKWISE ARROW WITH MINUS",
    "2ANTICLOCKWISE ARROW WITH PLUS;LOWER RIGHT SEMICIRCULAR CLOCKWISE ARROW",
    "1LEFT SEMICIRCULAR ANTICLOCKWISE~1;ANTICLOCKWISE CLOSED CIRCLE~1;CLOCKWISE~3",
    "RIGHTWARDS ARROW ABOVE SHORT LEFTWARDS~1;LEFTWARDS ARROW ABOVE SHORT RIGHTWARDS~1",
    "SHORT RIGHTWARDS ARROW ABOVE LEFTWARDS~1;RIGHTWARDS ARROW WITH PLUS BELOW;LEFTWARDS~4",
    "RIGHTWARDS ARROW THROUGH X;LEFT RIGHT ARROW THROUGH SMALL CIRCLE",
    "UPWARDS TWO-HEADED ARROW FROM~2;LEFT BARB UP RIGHT BARB DOWN HARPOON;2DOWN RIGHT BARB UP~1",
    "UP BARB RIGHT DOWN BARB LEFT~1;2LEFT DOWN BARB RIGHT~1;LEFT BARB UP RIGHT BARB UP~1",
    "UP BARB RIGHT DOWN BARB RIGHT~1;LEFT BARB DOWN RIGHT BARB DOWN~1",
    "UP BARB LEFT DOWN BARB LEFT~1;LEFTWARDS HARPOON WITH BARB UP TO BAR;RIGHTWARDS~6",
    "UPWARDS HARPOON WITH BARB RIGHT~2;DOWNWARDS~6;LEFTWARDS HARPOON WITH BARB DOWN~2;RIGHTWARDS~6",
    "UPWARDS HARPOON WITH BARB LEFT~2;DOWNWARDS~6;LEFTWARDS HARPOON WITH BARB UP FROM~1",
    "RIGHTWARDS~6;UPWARDS HARPOON WITH BARB RIGHT~2;DOWNWARDS~6;LEFTWARDS HARPOON WITH BARB DOWN~2",
    "RIGHTWARDS~6;UPWARDS HARPOON WITH BARB LEFT~2;DOWNWARDS~6",
    "LEFTWARDS HARPOON WITH BARB UP ABOVE LEFTWARDS HARPOON WITH BARB DOWN",
    "UPWARDS HARPOON WITH BARB LEFT BESIDE UPWARDS HARPOON WITH BARB RIGHT",
    "RIGHTWARDS HARPOON WITH BARB UP ABOVE RIGHTWARDS HARPOON WITH BARB DOWN",
    "DOWNWARDS HARPOON WITH BARB LEFT BESIDE DOWNWARDS HARPOON WITH BARB RIGHT",
    "LEFTWARDS HARPOON WITH BARB UP ABOVE RIGHTWARDS HARPOON WITH BARB UP",
    "4DOWN ABOVE RIGHTWARDS HARPOON WITH BARB DOWN",
    "RIGHTWARDS HARPOON WITH BARB UP ABOVE LEFTWARDS HARPOON WITH BARB UP",
    "4DOWN ABOVE LEFTWARDS HARPOON WITH BARB DOWN;LEFTWARDS HARPOON WITH BARB UP ABOVE LONG DASH",
    "4DOWN BELOW~2;RIGHTWARDS HARPOON WITH BARB UP ABOVE~2;4DOWN BELOW~2",
    "UPWARDS HARPOON WITH BARB LEFT BESIDE DOWNWARDS HARPOON WITH BARB RIGHT",
    "DOWNWARDS HARPOON WITH BARB LEFT BESIDE UPWARDS~4;RIGHT DOUBLE ARROW WITH ROUNDED HEAD",
    "EQUALS SIGN ABOVE RIGHTWARDS ARROW;TILDE OPERATOR~3;LEFTWARDS ARROW ABOVE TILDE OPERATOR",
    "RIGHTWARDS~4;3ALMOST EQUAL TO;LESS-THAN ABOVE LEFTWARDS ARROW",
    "LEFTWARDS ARROW THROUGH LESS-THAN;GREATER-THAN ABOVE RIGHTWARDS ARROW;SUBSET~3",
    "LEFTWARDS ARROW THROUGH SUBSET;SUPERSET ABOVE LEFTWARDS ARROW;LEFT FISH TAIL;RIGHT~2;UP~2",
    "DOWN~2;TRIPLE VERTICAL BAR DELIMITER;Z NOTATION SPOT;2TYPE COLON;LEFT WHITE CURLY BRACKET",
    "RIGHT~3;LEFT WHITE PARENTHESIS;RIGHT~2;Z NOTATION LEFT IMAGE BRACKET;2RIGHT~2;2LEFT BINDING~1",
    "2RIGHT~2;LEFT SQUARE BRACKET WITH UNDERBAR;RIGHT~4",
    "LEFT SQUARE BRACKET WITH TICK IN TOP CORNER;RIGHT SQUARE BRACKET WITH TICK IN BOTTOM~1;LEFT~7",
    "RIGHT SQUARE BRACKET WITH TICK IN TOP~1;LEFT ANGLE BRACKET WITH DOT;RIGHT~4",
    "LEFT ARC LESS-THAN BRACKET;RIGHT ARC GREATER-THAN~1;DOUBLE LEFT~3;1RIGHT ARC LESS-THAN~1",
    "LEFT BLACK TORTOISE SHELL~1;RIGHT~4;DOTTED FENCE;VERTICAL ZIGZAG LINE",
    "MEASURED ANGLE OPENING LEFT;RIGHT ANGLE VARIANT WITH SQUARE;MEASURED RIGHT ANGLE WITH DOT",
    "ANGLE WITH S INSIDE;ACUTE ANGLE;SPHERICAL ANGLE OPENING LEFT;3UP;TURNED ANGLE;REVERSED~1",
    "ANGLE WITH UNDERBAR;REVERSED~3;OBLIQUE ANGLE OPENING UP;3DOWN",
    "MEASURED ANGLE WITH OPEN ARM ENDING IN ARROW POINTING UP AND RIGHT;9UP AND LEFT",
    "9DOWN AND RIGHT;9DOWN AND LEFT;9RIGHT AND UP;9LEFT~2;9RIGHT AND DOWN;9LEFT~2",
    "REVERSED EMPTY SET;EMPTY SET WITH OVERBAR;3SMALL CIRCLE ABOVE;3RIGHT ARROW~1;3LEFT~2",
    "CIRCLE WITH HORIZONTAL BAR;CIRCLED VERTICAL~1;1PARALLEL;1REVERSE SOLIDUS;1PERPENDICULAR",
    "CIRCLE DIVIDED BY HORIZONTAL BAR AND TOP HALF DIVIDED BY VERTICAL BAR;1WITH SUPERIMPOSED X",
    "CIRCLED ANTICLOCKWISE-ROTATED DIVISION SIGN;UP ARROW THROUGH CIRCLE;CIRCLED WHITE BULLET;1~1",
    "1LESS-THAN;1GREATER-THAN;CIRCLE WITH SMALL CIRCLE TO THE RIGHT;2TWO HORIZONTAL STROKES~3",
    "SQUARED RISING DIAGONAL SLASH;1FALLING~2;1ASTERISK;1SMALL CIRCLE;1SQUARE;TWO JOINED SQUARES",
    "TRIANGLE WITH DOT ABOVE;2UNDERBAR;S IN TRIANGLE;TRIANGLE WITH SERIFS AT BOTTOM",
    "RIGHT TRIANGLE ABOVE LEFT TRIANGLE;LEFT TRIANGLE BESIDE VERTICAL BAR",
    "VERTICAL BAR BESIDE RIGHT TRIANGLE;BOWTIE WITH LEFT HALF BLACK;2RIGHT~2;BLACK BOWTIE",
    "TIMES WITH LEFT HALF BLACK;2RIGHT~2;WHITE HOURGLASS;BLACK~1;LEFT WIGGLY FENCE;RIGHT~2",
    "LEFT DOUBLE~2;RIGHT~3;INCOMPLETE INFINITY;TIE OVER~1;INFINITY NEGATED WITH VERTICAL BAR",
    "DOUBLE-ENDED MULTIMAP;SQUARE WITH CONTOURED OUTLINE;INCREASES AS;SHUFFLE PRODUCT",
    "EQUALS SIGN AND SLANTED PARALLEL;5WITH TILDE ABOVE;IDENTICAL TO AND SLANTED PARALLEL",
    "GLEICH STARK;THERMODYNAMIC;DOWN-POINTING TRIANGLE WITH LEFT HALF BLACK;3RIGHT~2",
    "BLACK DIAMOND WITH DOWN ARROW;1LOZENGE;WHITE CIRCLE WITH DOWN ARROW;BLACK~4",
    "ERROR-BARRED WHITE SQUARE;1BLACK~1;1WHITE DIAMOND;1BLACK~1;1WHITE CIRCLE;1BLACK~1",
    "RULE-DELAYED;REVERSE SOLIDUS OPERATOR;SOLIDUS WITH OVERBAR",
    "REVERSE SOLIDUS WITH HORIZONTAL STROKE;BIG SOLIDUS;1REVERSE~1;DOUBLE PLUS;TRIPLE~1",
    "LEFT-POINTING CURVED ANGLE BRACKET;RIGHT-POINTING~3;TINY;MINY;N-ARY CIRCLED DOT OPERATOR",
    "2PLUS~1;2TIMES~1;1UNION OPERATOR WITH DOT;4PLUS;1SQUARE INTERSECTION OPERATOR;2UNION~1",
    "TWO LOGICAL AND~1;2OR~1;N-ARY TIMES~1;MODULO TWO SUM;SUMMATION WITH INTEGRAL",
    "QUADRUPLE INTEGRAL OPERATOR;FINITE PART INTEGRAL;INTEGRAL WITH DOUBLE STROKE",
    "1AVERAGE WITH SLASH;CIRCULATION FUNCTION;ANTICLOCKWISE INTEGRATION",
    "LINE INTEGRATION WITH RECTANGULAR PATH AROUND POLE;3SEMICIRCULAR~3;2NOT INCLUDING THE~1",
    "INTEGRAL AROUND A POINT OPERATOR;QUATERNION INTEGRAL~1",
    "INTEGRAL WITH LEFTWARDS ARROW WITH HOOK;2TIMES SIGN;2INTERSECTION;2UNION;2OVERBAR;2UNDERBAR",
    "JOIN;LARGE LEFT TRIANGLE OPERATOR;Z NOTATION SCHEMA COMPOSITION;3PIPING;3PROJECTION",
    "PLUS SIGN WITH SMALL CIRCLE ABOVE;3CIRCUMFLEX ACCENT~1;3TILDE~1;3DOT BELOW;3TILDE~1",
    "3SUBSCRIPT TWO;3BLACK TRIANGLE;MINUS SIGN WITH COMMA ABOVE;3DOT BELOW;3FALLING DOTS;3RISING~1",
    "PLUS SIGN IN LEFT HALF CIRCLE;3RIGHT~2;VECTOR OR CROSS PRODUCT",
    "MULTIPLICATION SIGN WITH DOT ABOVE;3UNDERBAR;SEMIDIRECT PRODUCT WITH BOTTOM CLOSED",
    "SMASH PRODUCT;MULTIPLICATION SIGN IN LEFT HALF CIRCLE;3RIGHT~2",
    "CIRCLED MULTIPLICATION SIGN WITH CIRCUMFLEX ACCENT;MULTIPLICATION SIGN IN DOUBLE CIRCLE",
    "CIRCLED DIVISION SIGN;PLUS SIGN IN TRIANGLE;MINUS~3;MULTIPLICATION~3;INTERIOR PRODUCT",
    "RIGHTHAND~2;Z NOTATION RELATIONAL COMPOSITION;AMALGAMATION OR COPRODUCT;INTERSECTION WITH DOT",
    "UNION WITH MINUS SIGN;2OVERBAR;INTERSECTION~2;2LOGICAL AND;UNION WITH LOGICAL OR",
    "1ABOVE INTERSECTION;INTERSECTION ABOVE UNION;UNION ABOVE BAR ABOVE INTERSECTION",
    "INTERSECTION ABOVE BAR ABOVE UNION;UNION BESIDE AND JOINED WITH~1",
    "INTERSECTION BESIDE AND JOINED WITH INTERSECTION;CLOSED UNION WITH SERIFS;1INTERSECTION~2",
    "DOUBLE SQUARE INTERSECTION;2UNION;CLOSED UNION WITH SERIFS AND SMASH PRODUCT",
    "LOGICAL AND WITH DOT ABOVE;1OR~3;DOUBLE LOGICAL AND;2OR;TWO INTERSECTING LOGICAL AND;3OR",
    "SLOPING LARGE OR;2AND;LOGICAL OR OVERLAPPING LOGICAL~1;1AND WITH MIDDLE STEM;1OR~3",
    "1AND WITH HORIZONTAL DASH;1OR~3;1AND WITH DOUBLE OVERBAR;3UNDERBAR;3DOUBLE~1;SMALL VEE WITH~1",
    "LOGICAL OR WITH DOUBLE OVERBAR;4UNDERBAR;Z NOTATION DOMAIN ANTIRESTRICTION;2RANGE~1",
    "EQUALS SIGN WITH DOT BELOW;IDENTICAL WITH DOT ABOVE",
    "TRIPLE HORIZONTAL BAR WITH DOUBLE VERTICAL STROKE;4TRIPLE~2;TILDE OPERATOR WITH DOT ABOVE",
    "3RISING DOTS;SIMILAR MINUS SIMILAR;CONGRUENT WITH DOT ABOVE;EQUALS WITH ASTERISK",
    "ALMOST EQUAL TO WITH CIRCUMFLEX ACCENT;APPROXIMATELY EQUAL OR EQUAL TO",
    "EQUALS SIGN ABOVE PLUS SIGN;PLUS SIGN ABOVE EQUALS~1;EQUALS SIGN ABOVE TILDE OPERATOR",
    "DOUBLE COLON EQUAL;TWO CONSECUTIVE EQUALS SIGNS;THREE~3",
    "EQUALS SIGN WITH TWO DOTS ABOVE AND TWO DOTS BELOW;EQUIVALENT WITH FOUR DOTS ABOVE",
    "LESS-THAN WITH CIRCLE INSIDE;GREATER-THAN~3;LESS-THAN WITH QUESTION MARK ABOVE;GREATER-THAN~4",
    "LESS-THAN OR SLANTED EQUAL TO;GREATER-THAN~4;LESS-THAN OR SLANTED EQUAL TO WITH DOT INSIDE",
    "GREATER-THAN~7;LESS-THAN OR SLANTED EQUAL TO WITH DOT ABOVE;GREATER-THAN~7",
    "LESS-THAN OR SLANTED EQUAL TO WITH DOT ABOVE RIGHT",
    "GREATER-THAN OR SLANTED EQUAL TO WITH DOT ABOVE LEFT;LESS-THAN OR APPROXIMATE;GREATER-THAN~2",
    "LESS-THAN AND SINGLE-LINE NOT EQUAL TO;GREATER-THAN~5;LESS-THAN AND NOT APPROXIMATE",
    "GREATER-THAN~3;LESS-THAN ABOVE DOUBLE-LINE EQUAL ABOVE GREATER-THAN",
    "GREATER-THAN ABOVE DOUBLE-LINE EQUAL ABOVE LESS-THAN;LESS-THAN ABOVE SIMILAR OR EQUAL",
    "GREATER-THAN~4;LESS-THAN ABOVE SIMILAR ABOVE GREATER-THAN",
    "GREATER-THAN ABOVE SIMILAR ABOVE LESS-THAN",
    "LESS-THAN ABOVE GREATER-THAN ABOVE DOUBLE-LINE EQUAL;GREATER-THAN ABOVE LESS-THAN~3",
    "LESS-THAN ABOVE SLANTED EQUAL ABOVE GREATER-THAN ABOVE SLANTED~1",
    "GREATER-THAN ABOVE SLANTED EQUAL ABOVE LESS-THAN~3;SLANTED EQUAL TO OR LESS-THAN",
    "4GREATER-THAN;4LESS-THAN WITH DOT INSIDE;4GREATER-THAN~3;DOUBLE-LINE EQUAL TO OR LESS-THAN",
    "4GREATER-THAN;1SLANTED EQUAL TO OR LESS-THAN;5GREATER-THAN;SIMILAR OR LESS-THAN;2GREATER-THAN",
    "1ABOVE LESS-THAN ABOVE EQUALS SIGN;2GREATER-THAN~3;DOUBLE NESTED LESS-THAN;2GREATER-THAN",
    "2LESS-THAN WITH UNDERBAR;GREATER-THAN OVERLAPPING LESS-THAN;1BESIDE~1",
    "LESS-THAN CLOSED BY CURVE;GREATER-THAN~3;LESS-THAN CLOSED BY CURVE ABOVE SLANTED EQUAL",
    "GREATER-THAN~6;SMALLER THAN;LARGER~1;SMALLER THAN OR EQUAL TO;LARGER~4",
    "EQUALS SIGN WITH BUMPY ABOVE;PRECEDES ABOVE SINGLE-LINE EQUALS SIGN;SUCCEEDS~4",
    "PRECEDES ABOVE SINGLE-LINE NOT EQUAL TO;SUCCEEDS~5;PRECEDES ABOVE EQUALS SIGN;SUCCEEDS~3",
    "PRECEDES ABOVE NOT EQUAL TO;SUCCEEDS~4;PRECEDES ABOVE ALMOST~2;SUCCEEDS~4",
    "PRECEDES ABOVE NOT~3;SUCCEEDS~5;DOUBLE PRECEDES;1SUCCEEDS;SUBSET WITH DOT;SUPERSET~2",
    "SUBSET WITH PLUS SIGN BELOW;SUPERSET~4;SUBSET WITH MULTIPLICATION~2;SUPERSET~4",
    "SUBSET OF OR EQUAL TO WITH DOT ABOVE;SUPERSET~7;SUBSET OF ABOVE EQUALS SIGN;SUPERSET~4",
    "SUBSET OF ABOVE TILDE OPERATOR;SUPERSET~4;SUBSET OF ABOVE ALMOST EQUAL TO;SUPERSET~5",
    "SUBSET OF ABOVE NOT~2;SUPERSET~5;SQUARE LEFT OPEN BOX OPERATOR;1RIGHT~3;CLOSED SUBSET",
    "1SUPERSET;1SUBSET OR EQUAL TO;1SUPERSET~3;SUBSET ABOVE SUPERSET;SUPERSET ABOVE SUBSET",
    "SUBSET~2;SUPERSET ABOVE SUPERSET;1BESIDE SUBSET;2AND JOINED BY DASH WITH~1",
    "ELEMENT OF OPENING DOWNWARDS;PITCHFORK WITH TEE TOP;TRANSVERSAL INTERSECTION;FORKING",
    "NONFORKING;SHORT LEFT TACK;1DOWN~1;1UP~1;PERPENDICULAR WITH S",
    "VERTICAL BAR TRIPLE RIGHT TURNSTILE;DOUBLE VERTICAL BAR LEFT~1;VERTICAL BAR DOUBLE~2;DOUBLE~5",
    "LONG DASH FROM LEFT MEMBER OF DOUBLE VERTICAL;SHORT DOWN TACK WITH OVERBAR",
    "1UP TACK WITH UNDERBAR;3ABOVE SHORT DOWN TACK;DOUBLE~2;1UP~1;1STROKE NOT SIGN;REVERSED~4",
    "DOES NOT DIVIDE WITH REVERSED NEGATION SLASH;VERTICAL LINE WITH CIRCLE ABOVE;4BELOW",
    "DOWN TACK~3;PARALLEL WITH HORIZONTAL STROKE;2TILDE OPERATOR",
    "TRIPLE VERTICAL BAR BINARY RELATION;3WITH HORIZONTAL STROKE;1COLON OPERATOR;1NESTED LESS-THAN",
    "2GREATER-THAN;DOUBLE-LINE SLANTED LESS-THAN OR EQUAL TO;2GREATER-THAN~3",
    "TRIPLE SOLIDUS BINARY RELATION;LARGE TRIPLE VERTICAL BAR OPERATOR;DOUBLE SOLIDUS~1",
    "WHITE VERTICAL BAR;N-ARY~3;NORTH EAST WHITE ARROW;1WEST~2;SOUTH EAST~2;1WEST~2;LEFT RIGHT~2",
    "LEFTWARDS BLACK~1;UPWARDS~2;DOWNWARDS~2;NORTH EAST~2;1WEST~2;SOUTH EAST~2;1WEST~2",
    "LEFT RIGHT~2;UP DOWN~2;RIGHTWARDS ARROW WITH TIP DOWNWARDS;4UPWARDS",
    "LEFTWARDS ARROW WITH TIP DOWNWARDS;4UPWARDS;SQUARE WITH TOP HALF BLACK;2BOTTOM~2",
    "2UPPER RIGHT DIAGONAL~2;2LOWER LEFT~3;DIAMOND WITH LEFT~2;2RIGHT~2;2TOP~2;2BOTTOM~2",
    "DOTTED SQUARE;BLACK LARGE~1;WHITE~2;BLACK VERY SMALL~1;WHITE~3;BLACK PENTAGON;WHITE~1",
    "1HEXAGON;BLACK~1;HORIZONTAL~2;BLACK LARGE CIRCLE;1MEDIUM DIAMOND;WHITE~2;BLACK MEDIUM LOZENGE",
    "WHITE~2;BLACK SMALL DIAMOND;2LOZENGE;WHITE~2;BLACK HORIZONTAL ELLIPSE;WHITE~2",
    "BLACK VERTICAL~1;WHITE~2;LEFT ARROW WITH SMALL CIRCLE;THREE LEFTWARDS ARROWS",
    "LEFT ARROW WITH CIRCLED PLUS;LONG LEFTWARDS SQUIGGLE ARROW",
    "LEFTWARDS TWO-HEADED ARROW WITH VERTICAL STROKE;4DOUBLE~2;3FROM BAR;2TRIPLE DASH ARROW",
    "1ARROW WITH DOTTED STEM;3TAIL WITH VERTICAL STROKE;5DOUBLE~2;1TWO-HEADED ARROW WITH TAIL",
    "5WITH VERTICAL STROKE;6DOUBLE~2;1ARROW THROUGH X;WAVE ARROW POINTING DIRECTLY LEFT",
    "EQUALS SIGN ABOVE LEFTWARDS ARROW;REVERSE TILDE OPERATOR~3",
    "LEFTWARDS ARROW ABOVE REVERSE ALMOST EQUAL TO;RIGHTWARDS ARROW THROUGH GREATER-THAN;3SUPERSET",
    "LEFTWARDS QUADRUPLE ARROW;RIGHTWARDS~2;REVERSE TILDE OPERATOR ABOVE RIGHTWARDS~1",
    "RIGHTWARDS ARROW ABOVE REVERSE ALMOST EQUAL TO;TILDE OPERATOR ABOVE LEFTWARDS ARROW",
    "LEFTWARDS ARROW ABOVE ALMOST EQUAL TO;3REVERSE TILDE OPERATOR;RIGHTWARDS~5",
    "DOWNWARDS TRIANGLE-HEADED ZIGZAG ARROW;SHORT SLANTED NORTH~1;1BACKSLANTED SOUTH~1",
    "WHITE MEDIUM STAR;BLACK SMALL~1;WHITE~2;BLACK RIGHT-POINTING PENTAGON;WHITE~2",
    "HEAVY LARGE CIRCLE;1OVAL WITH OVAL INSIDE;1CIRCLE WITH CIRCLE~1;2;1CIRCLED SALTIRE",
    "SLANTED NORTH ARROW WITH HOOKED HEAD;BACKSLANTED SOUTH ARROW WITH HOOKED TAIL",
    "SLANTED NORTH ARROW WITH HORIZONTAL~1;BACKSLANTED SOUTH~4",
    "BENT ARROW POINTING DOWNWARDS THEN NORTH EAST;SHORT~7;LEFTWARDS TRIANGLE-HEADED ARROW",
    "UPWARDS~2;RIGHTWARDS~2;DOWNWARDS~2;LEFT RIGHT~2;UP DOWN~2;NORTH WEST~2;1EAST~2;SOUTH~3",
    "1WEST~2;LEFTWARDS TRIANGLE-HEADED DASHED~1;UPWARDS~3;RIGHTWARDS~3;DOWNWARDS~3",
    "CLOCKWISE TRIANGLE-HEADED OPEN CIRCLE~1;ANTICLOCKWISE~4",
    "LEFTWARDS TRIANGLE-HEADED ARROW TO BAR;UPWARDS~4;RIGHTWARDS~4;DOWNWARDS~4"]⟩,
  ⟨0x2b76, ["NORTH WEST TRIANGLE-HEADED ARROW TO BAR;1EAST~4;SOUTH~5;1WEST~4",
    "LEFTWARDS TRIANGLE-HEADED ARROW WITH DOUBLE HORIZONTAL STROKE;UPWARDS~6;RIGHTWARDS~6",
    "DOWNWARDS~6;HORIZONTAL TAB KEY;VERTICAL~2",
    "LEFTWARDS TRIANGLE-HEADED ARROW OVER RIGHTWARDS TRIANGLE-HEADED ARROW",
    "UPWARDS TRIANGLE-HEADED ARROW LEFTWARDS OF DOWNWARDS~2",
    "RIGHTWARDS TRIANGLE-HEADED ARROW OVER LEFTWARDS~2",
    "DOWNWARDS TRIANGLE-HEADED ARROW LEFTWARDS OF UPWARDS~2",
    "LEFTWARDS TRIANGLE-HEADED PAIRED ARROWS;UPWARDS~3;RIGHTWARDS~3;DOWNWARDS~3",
    "LEFTWARDS BLACK CIRCLED WHITE ARROW;UPWARDS~4;RIGHTWARDS~4;DOWNWARDS~4",
    "ANTICLOCKWISE TRIANGLE-HEADED RIGHT U-SHAPED~1;2BOTTOM~2;2LEFT~2;2TOP~2;RETURN LEFT;1RIGHT",
    "NEWLINE LEFT;1RIGHT;FOUR CORNER ARROWS CIRCLING ANTICLOCKWISE;RIGHTWARDS BLACK ARROW"]⟩,
  ⟨0x2b97, ["SYMBOL FOR TYPE A ELECTRONICS;THREE-D TOP-LIGHTED LEFTWARDS EQUILATERAL ARROWHEAD",
    "1RIGHT-LIGHTED UPWARDS~2;1TOP-LIGHTED RIGHTWARDS~2;1LEFT-LIGHTED DOWNWARDS~2",
    "BLACK LEFTWARDS~2;1UPWARDS~2;1RIGHTWARDS~2;1DOWNWARDS~2",
    "DOWNWARDS TRIANGLE-HEADED ARROW WITH LONG TIP LEFTWARDS;6RIGHTWARDS",
    "UPWARDS TRIANGLE-HEADED ARROW WITH LONG TIP LEFTWARDS;6RIGHTWARDS",
    "LEFTWARDS TRIANGLE-HEADED ARROW WITH LONG TIP UPWARDS;RIGHTWARDS~6",
    "LEFTWARDS TRIANGLE-HEADED ARROW WITH LONG TIP DOWNWARDS;RIGHTWARDS~6",
    "BLACK CURVED DOWNWARDS AND LEFTWARDS ARROW;4RIGHTWARDS~1;2UPWARDS AND LEFTWARDS~1",
    "4RIGHTWARDS~1;2LEFTWARDS AND UPWARDS~1;2RIGHTWARDS~3;2LEFTWARDS AND DOWNWARDS~1;2RIGHTWARDS~3",
    "RIBBON ARROW DOWN LEFT;3RIGHT;2UP LEFT;3RIGHT;2LEFT UP;2RIGHT UP;2LEFT DOWN;2RIGHT~1",
    "UPWARDS WHITE ARROW FROM BAR WITH HORIZONTAL BAR;UP ARROWHEAD IN A RECTANGLE BOX",
    "OVERLAPPING WHITE SQUARES;2AND BLACK~1;1~2;BALLOT BOX WITH LIGHT X;CIRCLED X;1BOLD X",
    "BLACK SQUARE CENTRED;1DIAMOND~1;TURNED BLACK PENTAGON;HORIZONTAL BLACK OCTAGON;~2",
    "1MEDIUM UP-POINTING TRIANGLE CENTRED;2DOWN-POINTING~2;2LEFT-POINTING~2;2RIGHT-POINTING~2",
    "NEPTUNE FORM TWO;TOP HALF BLACK CIRCLE;BOTTOM~3;LIGHT FOUR POINTED BLACK CUSP;ROTATED~5",
    "WHITE FOUR POINTED~1;ROTATED~4;SQUARE POSITION INDICATOR;UNCERTAINTY SIGN;GROUP MARK",
    "PLUTO FORM TWO;2THREE;2FOUR;2FIVE;TRANSPLUTO;PROSERPINA;ASTRAEA;HYGIEA;PHOLUS;NESSUS",
    "WHITE MOON SELENA;BLACK DIAMOND ON CROSS;TRUE LIGHT MOON ARTA;CUPIDO;HADES;ZEUS;KRONOS",
    "APOLLON;ADMETOS;VULCANUS;POSEIDON;LEFT HALF BLACK STAR;RIGHT~3;STAR WITH LEFT HALF BLACK",
    "2RIGHT~2;LEFTWARDS TWO-HEADED ARROW WITH TRIANGLE ARROWHEADS;UPWARDS~5;RIGHTWARDS~5",
    "DOWNWARDS~5;ERIS FORM ONE;2TWO;SEDNA;RUSSIAN ASTROLOGICAL SYMBOL VIGINTILE;3NOVILE;3QUINTILE",
    "3BINOVILE;3SENTAGON;3TREDECILE;EQUALS SIGN WITH INFINITY BELOW;UNITED SYMBOL;SEPARATED~1",
    "DOUBLED~1;PASSED~1;REVERSED RIGHT ANGLE;HELLSCHREIBER PAUSE SYMBOL",
    "GLAGOLITIC CAPITAL LETTER AZU;3BUKY;3VEDE;3GLAGOLI;3DOBRO;3YESTU;3ZHIVETE;3DZELO;3ZEMLJA",
    "3IZHE;3INITIAL~1;3I;3DJERVI;3KAKO;3LJUDIJE;3MYSLITE;3NASHI;3ONU;3POKOJI;3RITSI;3SLOVO;3TVRIDO",
    "3UKU;3FRITU;3HERU;3OTU;3PE;3SHTA;3TSI;3CHRIVI;3SHA;3YERU;3YERI;3YATI;3SPIDERY HA;3YU",
    "3SMALL YUS;5WITH TAIL;3YO;3IOTATED SMALL YUS;3BIG~1;3IOTATED~2;3FITA;3IZHITSA;3SHTAPIC",
    "3TROKUTASTI A;3LATINATE MYSLITE;3CAUDATE CHRIVI;1SMALL LETTER AZU;3BUKY;3VEDE;3GLAGOLI;3DOBRO",
    "3YESTU;3ZHIVETE;3DZELO;3ZEMLJA;3IZHE;3INITIAL~1;3I;3DJERVI;3KAKO;3LJUDIJE;3MYSLITE;3NASHI",
    "3ONU;3POKOJI;3RITSI;3SLOVO;3TVRIDO;3UKU;3FRITU;3HERU;3OTU;3PE;3SHTA;3TSI;3CHRIVI;3SHA;3YERU",
    "3YERI;3YATI;3SPIDERY HA;3YU;3SMALL YUS;5WITH TAIL;3YO;3IOTATED SMALL YUS;3BIG~1;3IOTATED~2",
    "3FITA;3IZHITSA;3SHTAPIC;3TROKUTASTI A;3LATINATE MYSLITE;3CAUDATE CHRIVI",
    "LATIN CAPITAL LETTER L WITH DOUBLE BAR;1SMALL~5;1CAPITAL LETTER L WITH MIDDLE TILDE",
    "3P WITH STROKE;3R WITH TAIL;1SMALL LETTER A WITH STROKE;3T WITH DIAGONAL~1",
    "1CAPITAL LETTER H WITH DESCENDER;1SMALL~4;1CAPITAL LETTER K~2;1SMALL~4;1CAPITAL LETTER Z~2",
    "1SMALL~4;1CAPITAL LETTER ALPHA;3M WITH HOOK;3TURNED A;4ALPHA;1SMALL LETTER V WITH RIGHT HOOK",
    "1CAPITAL LETTER W WITH~1;1SMALL~4;3V WITH CURL;1CAPITAL LETTER HALF H;1SMALL~3;3TAILLESS PHI",
    "3E WITH NOTCH;3TURNED R WITH TAIL;3O WITH LOW RING INSIDE;1LETTER SMALL CAPITAL TURNED E",
    "1SUBSCRIPT SMALL LETTER J;MODIFIER LETTER CAPITAL V;LATIN CAPITAL LETTER S WITH SWASH TAIL",
    "3Z~3;COPTIC CAPITAL LETTER ALFA;1SMALL~2;1CAPITAL LETTER VIDA;1SMALL~2;1CAPITAL LETTER GAMMA",
    "1SMALL~2;1CAPITAL LETTER DALDA;1SMALL~2;1CAPITAL LETTER EIE;1SMALL~2;1CAPITAL LETTER SOU",
    "1SMALL~2;1CAPITAL LETTER ZATA;1SMALL~2;1CAPITAL LETTER HATE;1SMALL~2;1CAPITAL LETTER THETHE",
    "1SMALL~2;1CAPITAL LETTER IAUDA;1SMALL~2;1CAPITAL LETTER KAPA;1SMALL~2;1CAPITAL LETTER LAULA",
    "1SMALL~2;1CAPITAL LETTER MI;1SMALL~2;1CAPITAL LETTER NI;1SMALL~2;1CAPITAL LETTER KSI;1SMALL~2",
    "1CAPITAL LETTER O;1SMALL~2;1CAPITAL LETTER PI;1SMALL~2;1CAPITAL LETTER RO;1SMALL~2",
    "1CAPITAL LETTER SIMA;1SMALL~2;1CAPITAL LETTER TAU;1SMALL~2;1CAPITAL LETTER UA;1SMALL~2",
    "1CAPITAL LETTER FI;1SMALL~2;1CAPITAL LETTER KHI;1SMALL~2;1CAPITAL LETTER PSI;1SMALL~2",
    "1CAPITAL LETTER OOU;1SMALL~2;1CAPITAL LETTER DIALECT-P ALEF;1SMALL~3",
    "1CAPITAL LETTER OLD COPTIC AIN;1SMALL~4;1CAPITAL LETTER CRYPTOGRAMMIC EIE;1SMALL~3",
    "1CAPITAL LETTER DIALECT-P KAPA;1SMALL~3;1CAPITAL LETTER DIALECT-P NI;1SMALL~3",
    "1CAPITAL LETTER CRYPTOGRAMMIC NI;1SMALL~3;1CAPITAL LETTER OLD COPTIC OOU;1SMALL~4",
    "1CAPITAL LETTER SAMPI;1SMALL~2;1CAPITAL LETTER CROSSED SHEI;1SMALL~3",
    "1CAPITAL LETTER OLD COPTIC~1;1SMALL~4;1CAPITAL LETTER OLD COPTIC ESH;1SMALL~4",
    "1CAPITAL LETTER AKHMIMIC KHEI;1SMALL~3;1CAPITAL LETTER DIALECT-P HORI;1SMALL~3",
    "1CAPITAL LETTER OLD COPTIC~1;1SMALL~4;1CAPITAL LETTER OLD COPTIC HA;1SMALL~4",
    "1CAPITAL LETTER L-SHAPED HA;1SMALL~3;1CAPITAL LETTER OLD COPTIC HEI;1SMALL~4",
    "1CAPITAL LETTER OLD COPTIC HAT;1SMALL~4;1CAPITAL LETTER OLD COPTIC GANGIA;1SMALL~4",
    "1CAPITAL LETTER OLD COPTIC DJA;1SMALL~4;1CAPITAL LETTER OLD COPTIC SHIMA;1SMALL~4",
    "1CAPITAL LETTER OLD NUBIAN~1;1SMALL~4;1CAPITAL LETTER OLD NUBIAN NGI;1SMALL~4",
    "1CAPITAL LETTER OLD NUBIAN NYI;1SMALL~4;1CAPITAL LETTER OLD NUBIAN WAU;1SMALL~4;1SYMBOL KAI",
    "2MI RO;2PI RO;2STAUROS;2TAU RO;2KHI RO;2SHIMA SIMA;1CAPITAL LETTER CRYPTOGRAMMIC SHEI",
    "1SMALL~3;1CAPITAL LETTER CRYPTOGRAMMIC GANGIA;1SMALL~3;1COMBINING NI ABOVE;2SPIRITUS ASPER",
    "3LENIS;1CAPITAL LETTER BOHAIRIC KHEI;1SMALL~3"]⟩,
  ⟨0x2cf9, ["COPTIC OLD NUBIAN FULL STOP;3DIRECT QUESTION MARK;3INDIRECT~2;3VERSE DIVIDER",
    "1FRACTION ONE HALF;1FULL STOP;1MORPHOLOGICAL DIVIDER;GEORGIAN SMALL LETTER AN;3BAN;3GAN;3DON",
    "3EN;3VIN;3ZEN;3TAN;3IN;3KAN;3LAS;3MAN;3NAR;3ON;3PAR;3ZHAR;3RAE;3SAN;3TAR;3UN;3PHAR;3KHAR",
    "3GHAN;3QAR;3SHIN;3CHIN;3CAN;3JIL;3CIL;3CHAR;3XAN;3JHAN;3HAE;3HE;3HIE;3WE;3HAR;3HOE"]⟩,
  ⟨0x2d27, ["GEORGIAN SMALL LETTER YN"]⟩,
  ⟨0x2d2d, ["GEORGIAN SMALL LETTER AEN"]⟩,
  ⟨0x2d30, ["TIFINAGH LETTER YA;2YAB;2YABH;2YAG;2YAGHH;2BERBER ACADEMY YAJ;2~1;2YAD;2YADH;2YADD",
    "2YADDH;2YEY;2YAF;2YAK;2TUAREG~1;2YAKHH;2YAH;2BERBER ACADEMY~1;2TUAREG~1;2YAHH;2YAA;2YAKH",
    "2TUAREG~1;2YAQ;2TUAREG~1;2YI;2YAZH;2AHAGGAR~1;2TUAREG~1;2YAL;2YAM;2YAN;2TUAREG YAGN;3YANG",
    "2YAP;2YU;2YAR;2YARR;2YAGH;2TUAREG~1;2AYER~1;2YAS;2YASS;2YASH;2YAT;2YATH;2YACH;2YATT;2YAV;2YAW",
    "2YAY;2YAZ;2TAWELLEMET~1;2YAZZ;2YE;2YO"]⟩,
  ⟨0x2d6f, ["TIFINAGH MODIFIER LETTER LABIALIZATION MARK;1SEPARATOR~1"]⟩,
  ⟨0x2d7f, ["TIFINAGH CONSONANT JOINER;ETHIOPIC SYLLABLE LOA;2MOA;2ROA;2SOA;2SHOA;2BOA;2TOA;2COA",
    "2NOA;2NYOA;2GLOTTAL OA;2ZOA;2DOA;2DDOA;2JOA;2THOA;2CHOA;2PHOA;2POA;2GGWA;2GGWI;2GGWEE;2GGWE"]⟩,
  ⟨0x2da0, ["ETHIOPIC SYLLABLE SSA;2SSU;2SSI;2SSAA;2SSEE;2SSE;2SSO"]⟩,
  ⟨0x2da8, ["ETHIOPIC SYLLABLE CCA;2CCU;2CCI;2CCAA;2CCEE;2CCE;2CCO"]⟩,
  ⟨0x2db0, ["ETHIOPIC SYLLABLE ZZA;2ZZU;2ZZI;2ZZAA;2ZZEE;2ZZE;2ZZO"]⟩,
  ⟨0x2db8, ["ETHIOPIC SYLLABLE CCHA;2CCHU;2CCHI;2CCHAA;2CCHEE;2CCHE;2CCHO"]⟩,
  ⟨0x2dc0, ["ETHIOPIC SYLLABLE QYA;2QYU;2QYI;2QYAA;2QYEE;2QYE;2QYO"]⟩,
  ⟨0x2dc8, ["ETHIOPIC SYLLABLE KYA;2KYU;2KYI;2KYAA;2KYEE;2KYE;2KYO"]⟩,
  ⟨0x2dd0, ["ETHIOPIC SYLLABLE XYA;2XYU;2XYI;2XYAA;2XYEE;2XYE;2XYO"]⟩,
  ⟨0x2dd8, ["ETHIOPIC SYLLABLE GYA;2GYU;2GYI;2GYAA;2GYEE;2GYE;2GYO"]⟩,
  ⟨0x2de0, ["COMBINING CYRILLIC LETTER BE;3VE;3GHE;3DE;3ZHE;3ZE;3KA;3EL;3EM;3EN;3O;3PE;3ER;3ES;3TE",
    "3HA;3TSE;3CHE;3SHA;3SHCHA;3FITA;3ES-TE;3A;3IE;3DJERV;3MONOGRAPH UK;3YAT;3YU;3IOTIFIED A",
    "3LITTLE YUS;3BIG~1;3IOTIFIED~2;RIGHT ANGLE SUBSTITUTION MARKER;2DOTTED~2",
    "LEFT SUBSTITUTION BRACKET;RIGHT~2;LEFT DOTTED~2;RIGHT~3;RAISED INTERPOLATION MARKER;1DOTTED~2",
    "DOTTED TRANSPOSITION~1;LEFT TRANSPOSITION BRACKET;RIGHT~2;RAISED SQUARE",
    "LEFT RAISED OMISSION BRACKET;RIGHT~3;EDITORIAL CORONIS;PARAGRAPHOS;FORKED~1;REVERSED~2",
    "HYPODIASTOLE;DOTTED OBELOS;DOWNWARDS ANCORA;UPWARDS~1;DOTTED RIGHT-POINTING ANGLE",
    "DOUBLE OBLIQUE HYPHEN;INVERTED INTERROBANG;PALM BRANCH;HYPHEN WITH DIAERESIS",
    "TILDE WITH RING ABOVE;LEFT LOW PARAPHRASE BRACKET;RIGHT~3;TILDE WITH DOT ABOVE;3BELOW",
    "LEFT VERTICAL BAR WITH QUILL;RIGHT~4;TOP LEFT HALF BRACKET;1RIGHT~2;BOTTOM LEFT~2;1RIGHT~2",
    "LEFT SIDEWAYS U~1;RIGHT~3;LEFT DOUBLE PARENTHESIS;RIGHT~2;TWO DOTS OVER ONE DOT PUNCTUATION",
    "ONE DOT OVER TWO DOTS~1;SQUARED FOUR DOT~1;FIVE DOT MARK;REVERSED QUESTION~1;VERTICAL TILDE",
    "RING POINT;WORD SEPARATOR MIDDLE DOT;TURNED COMMA;RAISED DOT;1COMMA;TURNED SEMICOLON",
    "DAGGER WITH LEFT GUARD;2RIGHT~1;TURNED DAGGER;TOP HALF SECTION SIGN;TWO-EM DASH;THREE-EM~1",
    "STENOGRAPHIC FULL STOP;VERTICAL SIX DOTS;WIGGLY VERTICAL LINE;CAPITULUM;DOUBLE HYPHEN",
    "REVERSED COMMA;DOUBLE LOW-REVERSED-9 QUOTATION MARK;DASH WITH LEFT UPTURN",
    "DOUBLE SUSPENSION MARK;INVERTED LOW KAVYKA;3WITH KAVYKA ABOVE;LOW KAVYKA;2WITH DOT",
    "DOUBLE STACKED COMMA;DOTTED SOLIDUS;TRIPLE DAGGER;MEDIEVAL COMMA;PARAGRAPHUS MARK",
    "PUNCTUS ELEVATUS~1;CORNISH VERSE DIVIDER;CROSS PATTY WITH RIGHT CROSSBAR;3LEFT~1",
    "TIRONIAN SIGN CAPITAL ET;MEDIEVAL EXCLAMATION MARK;1QUESTION~1",
    "LEFT SQUARE BRACKET WITH STROKE;RIGHT~4;LEFT SQUARE BRACKET WITH DOUBLE~1;RIGHT~5",
    "TOP HALF LEFT PARENTHESIS;2RIGHT~1;BOTTOM HALF LEFT~1;2RIGHT~1;OBLIQUE HYPHEN"]⟩]

end CallTree.Text
