/-!
# Names of signs

The names of punctuation, currencies, arrows, mathematical and technical signs, and shapes.
-/

namespace ClientGen.Text

/-- The names from U+2000 to U+2355. -/
def symbolNamesA : List String :=
  ["2000 EN QUAD;EM QUAD;EN SPACE;EM SPACE;THREE-PER-EM SPACE;FOUR-PER-EM SPACE",
    "2006 SIX-PER-EM SPACE;FIGURE SPACE;PUNCTUATION SPACE;THIN SPACE;HAIR SPACE",
    "200b ZERO WIDTH SPACE;ZERO WIDTH NON-JOINER;ZERO WIDTH JOINER;LEFT-TO-RIGHT MARK",
    "200f RIGHT-TO-LEFT MARK;HYPHEN;NON-BREAKING HYPHEN;FIGURE DASH;EN DASH;EM DASH",
    "2015 HORIZONTAL BAR;DOUBLE VERTICAL LINE;DOUBLE LOW LINE;LEFT SINGLE QUOTATION MARK",
    "2019 RIGHT SINGLE QUOTATION MARK;SINGLE LOW-9 QUOTATION MARK",
    "201b SINGLE HIGH-REVERSED-9 QUOTATION MARK;LEFT DOUBLE QUOTATION MARK",
    "201d RIGHT DOUBLE QUOTATION MARK;DOUBLE LOW-9 QUOTATION MARK",
    "201f DOUBLE HIGH-REVERSED-9 QUOTATION MARK;DAGGER;DOUBLE DAGGER;BULLET;TRIANGULAR BULLET",
    "2024 ONE DOT LEADER;TWO DOT LEADER;HORIZONTAL ELLIPSIS;HYPHENATION POINT;LINE SEPARATOR",
    "2029 PARAGRAPH SEPARATOR;LEFT-TO-RIGHT EMBEDDING;RIGHT-TO-LEFT EMBEDDING",
    "202c POP DIRECTIONAL FORMATTING;LEFT-TO-RIGHT OVERRIDE;RIGHT-TO-LEFT OVERRIDE",
    "202f NARROW NO-BREAK SPACE;PER MILLE SIGN;PER TEN THOUSAND SIGN;PRIME;DOUBLE PRIME",
    "2034 TRIPLE PRIME;REVERSED PRIME;REVERSED DOUBLE PRIME;REVERSED TRIPLE PRIME;CARET",
    "2039 SINGLE LEFT-POINTING ANGLE QUOTATION MARK;SINGLE RIGHT-POINTING ANGLE QUOTATION MARK",
    "203b REFERENCE MARK;DOUBLE EXCLAMATION MARK;INTERROBANG;OVERLINE;UNDERTIE;CHARACTER TIE",
    "2041 CARET INSERTION POINT;ASTERISM;HYPHEN BULLET;FRACTION SLASH",
    "2045 LEFT SQUARE BRACKET WITH QUILL;RIGHT SQUARE BRACKET WITH QUILL;DOUBLE QUESTION MARK",
    "2048 QUESTION EXCLAMATION MARK;EXCLAMATION QUESTION MARK;TIRONIAN SIGN ET",
    "204b REVERSED PILCROW SIGN;BLACK LEFTWARDS BULLET;BLACK RIGHTWARDS BULLET;LOW ASTERISK",
    "204f REVERSED SEMICOLON;CLOSE UP;TWO ASTERISKS ALIGNED VERTICALLY;COMMERCIAL MINUS SIGN",
    "2053 SWUNG DASH;INVERTED UNDERTIE;FLOWER PUNCTUATION MARK;THREE DOT PUNCTUATION",
    "2057 QUADRUPLE PRIME;FOUR DOT PUNCTUATION;FIVE DOT PUNCTUATION;TWO DOT PUNCTUATION",
    "205b FOUR DOT MARK;DOTTED CROSS;TRICOLON;VERTICAL FOUR DOTS;MEDIUM MATHEMATICAL SPACE",
    "2060 WORD JOINER;FUNCTION APPLICATION;INVISIBLE TIMES;INVISIBLE SEPARATOR;INVISIBLE PLUS",
    "2066 LEFT-TO-RIGHT ISOLATE;RIGHT-TO-LEFT ISOLATE;FIRST STRONG ISOLATE",
    "2069 POP DIRECTIONAL ISOLATE;INHIBIT SYMMETRIC SWAPPING;ACTIVATE SYMMETRIC SWAPPING",
    "206c INHIBIT ARABIC FORM SHAPING;ACTIVATE ARABIC FORM SHAPING;NATIONAL DIGIT SHAPES",
    "206f NOMINAL DIGIT SHAPES;SUPERSCRIPT ZERO;SUPERSCRIPT LATIN SMALL LETTER I",
    "2074 SUPERSCRIPT FOUR;SUPERSCRIPT FIVE;SUPERSCRIPT SIX;SUPERSCRIPT SEVEN;SUPERSCRIPT EIGHT",
    "2079 SUPERSCRIPT NINE;SUPERSCRIPT PLUS SIGN;SUPERSCRIPT MINUS;SUPERSCRIPT EQUALS SIGN",
    "207d SUPERSCRIPT LEFT PARENTHESIS;SUPERSCRIPT RIGHT PARENTHESIS",
    "207f SUPERSCRIPT LATIN SMALL LETTER N;SUBSCRIPT ZERO;SUBSCRIPT ONE;SUBSCRIPT TWO",
    "2083 SUBSCRIPT THREE;SUBSCRIPT FOUR;SUBSCRIPT FIVE;SUBSCRIPT SIX;SUBSCRIPT SEVEN",
    "2088 SUBSCRIPT EIGHT;SUBSCRIPT NINE;SUBSCRIPT PLUS SIGN;SUBSCRIPT MINUS",
    "208c SUBSCRIPT EQUALS SIGN;SUBSCRIPT LEFT PARENTHESIS;SUBSCRIPT RIGHT PARENTHESIS",
    "2090 LATIN SUBSCRIPT SMALL LETTER A;LATIN SUBSCRIPT SMALL LETTER E",
    "2092 LATIN SUBSCRIPT SMALL LETTER O;LATIN SUBSCRIPT SMALL LETTER X",
    "2094 LATIN SUBSCRIPT SMALL LETTER SCHWA;LATIN SUBSCRIPT SMALL LETTER H",
    "2096 LATIN SUBSCRIPT SMALL LETTER K;LATIN SUBSCRIPT SMALL LETTER L",
    "2098 LATIN SUBSCRIPT SMALL LETTER M;LATIN SUBSCRIPT SMALL LETTER N",
    "209a LATIN SUBSCRIPT SMALL LETTER P;LATIN SUBSCRIPT SMALL LETTER S",
    "209c LATIN SUBSCRIPT SMALL LETTER T",
    "20a0 EURO-CURRENCY SIGN;COLON SIGN;CRUZEIRO SIGN;FRENCH FRANC SIGN;LIRA SIGN;MILL SIGN",
    "20a6 NAIRA SIGN;PESETA SIGN;RUPEE SIGN;WON SIGN;NEW SHEQEL SIGN;DONG SIGN;EURO SIGN",
    "20ad KIP SIGN;TUGRIK SIGN;DRACHMA SIGN;GERMAN PENNY SIGN;PESO SIGN;GUARANI SIGN",
    "20b3 AUSTRAL SIGN;HRYVNIA SIGN;CEDI SIGN;LIVRE TOURNOIS SIGN;SPESMILO SIGN;TENGE SIGN",
    "20b9 INDIAN RUPEE SIGN;TURKISH LIRA SIGN;NORDIC MARK SIGN;MANAT SIGN;RUBLE SIGN;LARI SIGN",
    "20bf BITCOIN SIGN;SOM SIGN",
    "20d0 COMBINING LEFT HARPOON ABOVE;COMBINING RIGHT HARPOON ABOVE",
    "20d2 COMBINING LONG VERTICAL LINE OVERLAY;COMBINING SHORT VERTICAL LINE OVERLAY",
    "20d4 COMBINING ANTICLOCKWISE ARROW ABOVE;COMBINING CLOCKWISE ARROW ABOVE",
    "20d6 COMBINING LEFT ARROW ABOVE;COMBINING RIGHT ARROW ABOVE;COMBINING RING OVERLAY",
    "20d9 COMBINING CLOCKWISE RING OVERLAY;COMBINING ANTICLOCKWISE RING OVERLAY",
    "20db COMBINING THREE DOTS ABOVE;COMBINING FOUR DOTS ABOVE;COMBINING ENCLOSING CIRCLE",
    "20de COMBINING ENCLOSING SQUARE;COMBINING ENCLOSING DIAMOND",
    "20e0 COMBINING ENCLOSING CIRCLE BACKSLASH;COMBINING LEFT RIGHT ARROW ABOVE",
    "20e2 COMBINING ENCLOSING SCREEN;COMBINING ENCLOSING KEYCAP",
    "20e4 COMBINING ENCLOSING UPWARD POINTING TRIANGLE;COMBINING REVERSE SOLIDUS OVERLAY",
    "20e6 COMBINING DOUBLE VERTICAL STROKE OVERLAY;COMBINING ANNUITY SYMBOL",
    "20e8 COMBINING TRIPLE UNDERDOT;COMBINING WIDE BRIDGE ABOVE",
    "20ea COMBINING LEFTWARDS ARROW OVERLAY;COMBINING LONG DOUBLE SOLIDUS OVERLAY",
    "20ec COMBINING RIGHTWARDS HARPOON WITH BARB DOWNWARDS",
    "20ed COMBINING LEFTWARDS HARPOON WITH BARB DOWNWARDS;COMBINING LEFT ARROW BELOW",
    "20ef COMBINING RIGHT ARROW BELOW;COMBINING ASTERISK ABOVE",
    "2100 ACCOUNT OF;ADDRESSED TO THE SUBJECT;DOUBLE-STRUCK CAPITAL C;DEGREE CELSIUS",
    "2104 CENTRE LINE SYMBOL;CARE OF;CADA UNA;EULER CONSTANT;SCRUPLE;DEGREE FAHRENHEIT",
    "210a SCRIPT SMALL G;SCRIPT CAPITAL H;BLACK-LETTER CAPITAL H;DOUBLE-STRUCK CAPITAL H",
    "210e PLANCK CONSTANT;PLANCK CONSTANT OVER TWO PI;SCRIPT CAPITAL I;BLACK-LETTER CAPITAL I",
    "2112 SCRIPT CAPITAL L;SCRIPT SMALL L;L B BAR SYMBOL;DOUBLE-STRUCK CAPITAL N;NUMERO SIGN",
    "2117 SOUND RECORDING COPYRIGHT;SCRIPT CAPITAL P;DOUBLE-STRUCK CAPITAL P",
    "211a DOUBLE-STRUCK CAPITAL Q;SCRIPT CAPITAL R;BLACK-LETTER CAPITAL R",
    "211d DOUBLE-STRUCK CAPITAL R;PRESCRIPTION TAKE;RESPONSE;SERVICE MARK;TELEPHONE SIGN",
    "2122 TRADE MARK SIGN;VERSICLE;DOUBLE-STRUCK CAPITAL Z;OUNCE SIGN;OHM SIGN",
    "2127 INVERTED OHM SIGN;BLACK-LETTER CAPITAL Z;TURNED GREEK SMALL LETTER IOTA;KELVIN SIGN",
    "212b ANGSTROM SIGN;SCRIPT CAPITAL B;BLACK-LETTER CAPITAL C;ESTIMATED SYMBOL;SCRIPT SMALL E",
    "2130 SCRIPT CAPITAL E;SCRIPT CAPITAL F;TURNED CAPITAL F;SCRIPT CAPITAL M;SCRIPT SMALL O",
    "2135 ALEF SYMBOL;BET SYMBOL;GIMEL SYMBOL;DALET SYMBOL;INFORMATION SOURCE;ROTATED CAPITAL Q",
    "213b FACSIMILE SIGN;DOUBLE-STRUCK SMALL PI;DOUBLE-STRUCK SMALL GAMMA",
    "213e DOUBLE-STRUCK CAPITAL GAMMA;DOUBLE-STRUCK CAPITAL PI;DOUBLE-STRUCK N-ARY SUMMATION",
    "2141 TURNED SANS-SERIF CAPITAL G;TURNED SANS-SERIF CAPITAL L;REVERSED SANS-SERIF CAPITAL L",
    "2144 TURNED SANS-SERIF CAPITAL Y;DOUBLE-STRUCK ITALIC CAPITAL D",
    "2146 DOUBLE-STRUCK ITALIC SMALL D;DOUBLE-STRUCK ITALIC SMALL E",
    "2148 DOUBLE-STRUCK ITALIC SMALL I;DOUBLE-STRUCK ITALIC SMALL J;PROPERTY LINE",
    "214b TURNED AMPERSAND;PER SIGN;AKTIESELSKAB;TURNED SMALL F;SYMBOL FOR SAMARITAN SOURCE",
    "2150 VULGAR FRACTION ONE SEVENTH;VULGAR FRACTION ONE NINTH;VULGAR FRACTION ONE TENTH",
    "2153 VULGAR FRACTION ONE THIRD;VULGAR FRACTION TWO THIRDS;VULGAR FRACTION ONE FIFTH",
    "2156 VULGAR FRACTION TWO FIFTHS;VULGAR FRACTION THREE FIFTHS;VULGAR FRACTION FOUR FIFTHS",
    "2159 VULGAR FRACTION ONE SIXTH;VULGAR FRACTION FIVE SIXTHS;VULGAR FRACTION ONE EIGHTH",
    "215c VULGAR FRACTION THREE EIGHTHS;VULGAR FRACTION FIVE EIGHTHS",
    "215e VULGAR FRACTION SEVEN EIGHTHS;FRACTION NUMERATOR ONE;ROMAN NUMERAL ONE",
    "2161 ROMAN NUMERAL TWO;ROMAN NUMERAL THREE;ROMAN NUMERAL FOUR;ROMAN NUMERAL FIVE",
    "2165 ROMAN NUMERAL SIX;ROMAN NUMERAL SEVEN;ROMAN NUMERAL EIGHT;ROMAN NUMERAL NINE",
    "2169 ROMAN NUMERAL TEN;ROMAN NUMERAL ELEVEN;ROMAN NUMERAL TWELVE;ROMAN NUMERAL FIFTY",
    "216d ROMAN NUMERAL ONE HUNDRED;ROMAN NUMERAL FIVE HUNDRED;ROMAN NUMERAL ONE THOUSAND",
    "2170 SMALL ROMAN NUMERAL ONE;SMALL ROMAN NUMERAL TWO;SMALL ROMAN NUMERAL THREE",
    "2173 SMALL ROMAN NUMERAL FOUR;SMALL ROMAN NUMERAL FIVE;SMALL ROMAN NUMERAL SIX",
    "2176 SMALL ROMAN NUMERAL SEVEN;SMALL ROMAN NUMERAL EIGHT;SMALL ROMAN NUMERAL NINE",
    "2179 SMALL ROMAN NUMERAL TEN;SMALL ROMAN NUMERAL ELEVEN;SMALL ROMAN NUMERAL TWELVE",
    "217c SMALL ROMAN NUMERAL FIFTY;SMALL ROMAN NUMERAL ONE HUNDRED",
    "217e SMALL ROMAN NUMERAL FIVE HUNDRED;SMALL ROMAN NUMERAL ONE THOUSAND",
    "2180 ROMAN NUMERAL ONE THOUSAND C D;ROMAN NUMERAL FIVE THOUSAND;ROMAN NUMERAL TEN THOUSAND",
    "2183 ROMAN NUMERAL REVERSED ONE HUNDRED;LATIN SMALL LETTER REVERSED C",
    "2185 ROMAN NUMERAL SIX LATE FORM;ROMAN NUMERAL FIFTY EARLY FORM",
    "2187 ROMAN NUMERAL FIFTY THOUSAND;ROMAN NUMERAL ONE HUNDRED THOUSAND",
    "2189 VULGAR FRACTION ZERO THIRDS;TURNED DIGIT TWO;TURNED DIGIT THREE",
    "2190 LEFTWARDS ARROW;UPWARDS ARROW;RIGHTWARDS ARROW;DOWNWARDS ARROW;LEFT RIGHT ARROW",
    "2195 UP DOWN ARROW;NORTH WEST ARROW;NORTH EAST ARROW;SOUTH EAST ARROW;SOUTH WEST ARROW",
    "219a LEFTWARDS ARROW WITH STROKE;RIGHTWARDS ARROW WITH STROKE;LEFTWARDS WAVE ARROW",
    "219d RIGHTWARDS WAVE ARROW;LEFTWARDS TWO HEADED ARROW;UPWARDS TWO HEADED ARROW",
    "21a0 RIGHTWARDS TWO HEADED ARROW;DOWNWARDS TWO HEADED ARROW;LEFTWARDS ARROW WITH TAIL",
    "21a3 RIGHTWARDS ARROW WITH TAIL;LEFTWARDS ARROW FROM BAR;UPWARDS ARROW FROM BAR",
    "21a6 RIGHTWARDS ARROW FROM BAR;DOWNWARDS ARROW FROM BAR;UP DOWN ARROW WITH BASE",
    "21a9 LEFTWARDS ARROW WITH HOOK;RIGHTWARDS ARROW WITH HOOK;LEFTWARDS ARROW WITH LOOP",
    "21ac RIGHTWARDS ARROW WITH LOOP;LEFT RIGHT WAVE ARROW;LEFT RIGHT ARROW WITH STROKE",
    "21af DOWNWARDS ZIGZAG ARROW;UPWARDS ARROW WITH TIP LEFTWARDS",
    "21b1 UPWARDS ARROW WITH TIP RIGHTWARDS;DOWNWARDS ARROW WITH TIP LEFTWARDS",
    "21b3 DOWNWARDS ARROW WITH TIP RIGHTWARDS;RIGHTWARDS ARROW WITH CORNER DOWNWARDS",
    "21b5 DOWNWARDS ARROW WITH CORNER LEFTWARDS;ANTICLOCKWISE TOP SEMICIRCLE ARROW",
    "21b7 CLOCKWISE TOP SEMICIRCLE ARROW;NORTH WEST ARROW TO LONG BAR",
    "21b9 LEFTWARDS ARROW TO BAR OVER RIGHTWARDS ARROW TO BAR;ANTICLOCKWISE OPEN CIRCLE ARROW",
    "21bb CLOCKWISE OPEN CIRCLE ARROW;LEFTWARDS HARPOON WITH BARB UPWARDS",
    "21bd LEFTWARDS HARPOON WITH BARB DOWNWARDS;UPWARDS HARPOON WITH BARB RIGHTWARDS",
    "21bf UPWARDS HARPOON WITH BARB LEFTWARDS;RIGHTWARDS HARPOON WITH BARB UPWARDS",
    "21c1 RIGHTWARDS HARPOON WITH BARB DOWNWARDS;DOWNWARDS HARPOON WITH BARB RIGHTWARDS",
    "21c3 DOWNWARDS HARPOON WITH BARB LEFTWARDS;RIGHTWARDS ARROW OVER LEFTWARDS ARROW",
    "21c5 UPWARDS ARROW LEFTWARDS OF DOWNWARDS ARROW;LEFTWARDS ARROW OVER RIGHTWARDS ARROW",
    "21c7 LEFTWARDS PAIRED ARROWS;UPWARDS PAIRED ARROWS;RIGHTWARDS PAIRED ARROWS",
    "21ca DOWNWARDS PAIRED ARROWS;LEFTWARDS HARPOON OVER RIGHTWARDS HARPOON",
    "21cc RIGHTWARDS HARPOON OVER LEFTWARDS HARPOON;LEFTWARDS DOUBLE ARROW WITH STROKE",
    "21ce LEFT RIGHT DOUBLE ARROW WITH STROKE;RIGHTWARDS DOUBLE ARROW WITH STROKE",
    "21d0 LEFTWARDS DOUBLE ARROW;UPWARDS DOUBLE ARROW;RIGHTWARDS DOUBLE ARROW",
    "21d3 DOWNWARDS DOUBLE ARROW;LEFT RIGHT DOUBLE ARROW;UP DOWN DOUBLE ARROW",
    "21d6 NORTH WEST DOUBLE ARROW;NORTH EAST DOUBLE ARROW;SOUTH EAST DOUBLE ARROW",
    "21d9 SOUTH WEST DOUBLE ARROW;LEFTWARDS TRIPLE ARROW;RIGHTWARDS TRIPLE ARROW",
    "21dc LEFTWARDS SQUIGGLE ARROW;RIGHTWARDS SQUIGGLE ARROW;UPWARDS ARROW WITH DOUBLE STROKE",
    "21df DOWNWARDS ARROW WITH DOUBLE STROKE;LEFTWARDS DASHED ARROW;UPWARDS DASHED ARROW",
    "21e2 RIGHTWARDS DASHED ARROW;DOWNWARDS DASHED ARROW;LEFTWARDS ARROW TO BAR",
    "21e5 RIGHTWARDS ARROW TO BAR;LEFTWARDS WHITE ARROW;UPWARDS WHITE ARROW",
    "21e8 RIGHTWARDS WHITE ARROW;DOWNWARDS WHITE ARROW;UPWARDS WHITE ARROW FROM BAR",
    "21eb UPWARDS WHITE ARROW ON PEDESTAL;UPWARDS WHITE ARROW ON PEDESTAL WITH HORIZONTAL BAR",
    "21ed UPWARDS WHITE ARROW ON PEDESTAL WITH VERTICAL BAR;UPWARDS WHITE DOUBLE ARROW",
    "21ef UPWARDS WHITE DOUBLE ARROW ON PEDESTAL;RIGHTWARDS WHITE ARROW FROM WALL",
    "21f1 NORTH WEST ARROW TO CORNER;SOUTH EAST ARROW TO CORNER;UP DOWN WHITE ARROW",
    "21f4 RIGHT ARROW WITH SMALL CIRCLE;DOWNWARDS ARROW LEFTWARDS OF UPWARDS ARROW",
    "21f6 THREE RIGHTWARDS ARROWS;LEFTWARDS ARROW WITH VERTICAL STROKE",
    "21f8 RIGHTWARDS ARROW WITH VERTICAL STROKE;LEFT RIGHT ARROW WITH VERTICAL STROKE",
    "21fa LEFTWARDS ARROW WITH DOUBLE VERTICAL STROKE",
    "21fb RIGHTWARDS ARROW WITH DOUBLE VERTICAL STROKE",
    "21fc LEFT RIGHT ARROW WITH DOUBLE VERTICAL STROKE;LEFTWARDS OPEN-HEADED ARROW",
    "21fe RIGHTWARDS OPEN-HEADED ARROW;LEFT RIGHT OPEN-HEADED ARROW;FOR ALL;COMPLEMENT",
    "2202 PARTIAL DIFFERENTIAL;THERE EXISTS;THERE DOES NOT EXIST;EMPTY SET;INCREMENT;NABLA",
    "2208 ELEMENT OF;NOT AN ELEMENT OF;SMALL ELEMENT OF;CONTAINS AS MEMBER",
    "220c DOES NOT CONTAIN AS MEMBER;SMALL CONTAINS AS MEMBER;END OF PROOF;N-ARY PRODUCT",
    "2210 N-ARY COPRODUCT;N-ARY SUMMATION;MINUS SIGN;MINUS-OR-PLUS SIGN;DOT PLUS;DIVISION SLASH",
    "2216 SET MINUS;ASTERISK OPERATOR;RING OPERATOR;BULLET OPERATOR;SQUARE ROOT;CUBE ROOT",
    "221c FOURTH ROOT;PROPORTIONAL TO;INFINITY;RIGHT ANGLE;ANGLE;MEASURED ANGLE;SPHERICAL ANGLE",
    "2223 DIVIDES;DOES NOT DIVIDE;PARALLEL TO;NOT PARALLEL TO;LOGICAL AND;LOGICAL OR",
    "2229 INTERSECTION;UNION;INTEGRAL;DOUBLE INTEGRAL;TRIPLE INTEGRAL;CONTOUR INTEGRAL",
    "222f SURFACE INTEGRAL;VOLUME INTEGRAL;CLOCKWISE INTEGRAL;CLOCKWISE CONTOUR INTEGRAL",
    "2233 ANTICLOCKWISE CONTOUR INTEGRAL;THEREFORE;BECAUSE;RATIO;PROPORTION;DOT MINUS;EXCESS",
    "223a GEOMETRIC PROPORTION;HOMOTHETIC;TILDE OPERATOR;REVERSED TILDE;INVERTED LAZY S",
    "223f SINE WAVE;WREATH PRODUCT;NOT TILDE;MINUS TILDE;ASYMPTOTICALLY EQUAL TO",
    "2244 NOT ASYMPTOTICALLY EQUAL TO;APPROXIMATELY EQUAL TO",
    "2246 APPROXIMATELY BUT NOT ACTUALLY EQUAL TO;NEITHER APPROXIMATELY NOR ACTUALLY EQUAL TO",
    "2248 ALMOST EQUAL TO;NOT ALMOST EQUAL TO;ALMOST EQUAL OR EQUAL TO;TRIPLE TILDE",
    "224c ALL EQUAL TO;EQUIVALENT TO;GEOMETRICALLY EQUIVALENT TO;DIFFERENCE BETWEEN",
    "2250 APPROACHES THE LIMIT;GEOMETRICALLY EQUAL TO;APPROXIMATELY EQUAL TO OR THE IMAGE OF",
    "2253 IMAGE OF OR APPROXIMATELY EQUAL TO;COLON EQUALS;EQUALS COLON;RING IN EQUAL TO",
    "2257 RING EQUAL TO;CORRESPONDS TO;ESTIMATES;EQUIANGULAR TO;STAR EQUALS;DELTA EQUAL TO",
    "225d EQUAL TO BY DEFINITION;MEASURED BY;QUESTIONED EQUAL TO;NOT EQUAL TO;IDENTICAL TO",
    "2262 NOT IDENTICAL TO;STRICTLY EQUIVALENT TO;LESS-THAN OR EQUAL TO",
    "2265 GREATER-THAN OR EQUAL TO;LESS-THAN OVER EQUAL TO;GREATER-THAN OVER EQUAL TO",
    "2268 LESS-THAN BUT NOT EQUAL TO;GREATER-THAN BUT NOT EQUAL TO;MUCH LESS-THAN",
    "226b MUCH GREATER-THAN;BETWEEN;NOT EQUIVALENT TO;NOT LESS-THAN;NOT GREATER-THAN",
    "2270 NEITHER LESS-THAN NOR EQUAL TO;NEITHER GREATER-THAN NOR EQUAL TO",
    "2272 LESS-THAN OR EQUIVALENT TO;GREATER-THAN OR EQUIVALENT TO",
    "2274 NEITHER LESS-THAN NOR EQUIVALENT TO;NEITHER GREATER-THAN NOR EQUIVALENT TO",
    "2276 LESS-THAN OR GREATER-THAN;GREATER-THAN OR LESS-THAN",
    "2278 NEITHER LESS-THAN NOR GREATER-THAN;NEITHER GREATER-THAN NOR LESS-THAN;PRECEDES",
    "227b SUCCEEDS;PRECEDES OR EQUAL TO;SUCCEEDS OR EQUAL TO;PRECEDES OR EQUIVALENT TO",
    "227f SUCCEEDS OR EQUIVALENT TO;DOES NOT PRECEDE;DOES NOT SUCCEED;SUBSET OF;SUPERSET OF",
    "2284 NOT A SUBSET OF;NOT A SUPERSET OF;SUBSET OF OR EQUAL TO;SUPERSET OF OR EQUAL TO",
    "2288 NEITHER A SUBSET OF NOR EQUAL TO;NEITHER A SUPERSET OF NOR EQUAL TO",
    "228a SUBSET OF WITH NOT EQUAL TO;SUPERSET OF WITH NOT EQUAL TO;MULTISET",
    "228d MULTISET MULTIPLICATION;MULTISET UNION;SQUARE IMAGE OF;SQUARE ORIGINAL OF",
    "2291 SQUARE IMAGE OF OR EQUAL TO;SQUARE ORIGINAL OF OR EQUAL TO;SQUARE CAP;SQUARE CUP",
    "2295 CIRCLED PLUS;CIRCLED MINUS;CIRCLED TIMES;CIRCLED DIVISION SLASH;CIRCLED DOT OPERATOR",
    "229a CIRCLED RING OPERATOR;CIRCLED ASTERISK OPERATOR;CIRCLED EQUALS;CIRCLED DASH",
    "229e SQUARED PLUS;SQUARED MINUS;SQUARED TIMES;SQUARED DOT OPERATOR;RIGHT TACK;LEFT TACK",
    "22a4 DOWN TACK;UP TACK;ASSERTION;MODELS;TRUE;FORCES;TRIPLE VERTICAL BAR RIGHT TURNSTILE",
    "22ab DOUBLE VERTICAL BAR DOUBLE RIGHT TURNSTILE;DOES NOT PROVE;NOT TRUE;DOES NOT FORCE",
    "22af NEGATED DOUBLE VERTICAL BAR DOUBLE RIGHT TURNSTILE;PRECEDES UNDER RELATION",
    "22b1 SUCCEEDS UNDER RELATION;NORMAL SUBGROUP OF;CONTAINS AS NORMAL SUBGROUP",
    "22b4 NORMAL SUBGROUP OF OR EQUAL TO;CONTAINS AS NORMAL SUBGROUP OR EQUAL TO;ORIGINAL OF",
    "22b7 IMAGE OF;MULTIMAP;HERMITIAN CONJUGATE MATRIX;INTERCALATE;XOR;NAND;NOR",
    "22be RIGHT ANGLE WITH ARC;RIGHT TRIANGLE;N-ARY LOGICAL AND;N-ARY LOGICAL OR",
    "22c2 N-ARY INTERSECTION;N-ARY UNION;DIAMOND OPERATOR;DOT OPERATOR;STAR OPERATOR",
    "22c7 DIVISION TIMES;BOWTIE;LEFT NORMAL FACTOR SEMIDIRECT PRODUCT",
    "22ca RIGHT NORMAL FACTOR SEMIDIRECT PRODUCT;LEFT SEMIDIRECT PRODUCT",
    "22cc RIGHT SEMIDIRECT PRODUCT;REVERSED TILDE EQUALS;CURLY LOGICAL OR;CURLY LOGICAL AND",
    "22d0 DOUBLE SUBSET;DOUBLE SUPERSET;DOUBLE INTERSECTION;DOUBLE UNION;PITCHFORK",
    "22d5 EQUAL AND PARALLEL TO;LESS-THAN WITH DOT;GREATER-THAN WITH DOT;VERY MUCH LESS-THAN",
    "22d9 VERY MUCH GREATER-THAN;LESS-THAN EQUAL TO OR GREATER-THAN",
    "22db GREATER-THAN EQUAL TO OR LESS-THAN;EQUAL TO OR LESS-THAN;EQUAL TO OR GREATER-THAN",
    "22de EQUAL TO OR PRECEDES;EQUAL TO OR SUCCEEDS;DOES NOT PRECEDE OR EQUAL",
    "22e1 DOES NOT SUCCEED OR EQUAL;NOT SQUARE IMAGE OF OR EQUAL TO",
    "22e3 NOT SQUARE ORIGINAL OF OR EQUAL TO;SQUARE IMAGE OF OR NOT EQUAL TO",
    "22e5 SQUARE ORIGINAL OF OR NOT EQUAL TO;LESS-THAN BUT NOT EQUIVALENT TO",
    "22e7 GREATER-THAN BUT NOT EQUIVALENT TO;PRECEDES BUT NOT EQUIVALENT TO",
    "22e9 SUCCEEDS BUT NOT EQUIVALENT TO;NOT NORMAL SUBGROUP OF",
    "22eb DOES NOT CONTAIN AS NORMAL SUBGROUP;NOT NORMAL SUBGROUP OF OR EQUAL TO",
    "22ed DOES NOT CONTAIN AS NORMAL SUBGROUP OR EQUAL;VERTICAL ELLIPSIS",
    "22ef MIDLINE HORIZONTAL ELLIPSIS;UP RIGHT DIAGONAL ELLIPSIS;DOWN RIGHT DIAGONAL ELLIPSIS",
    "22f2 ELEMENT OF WITH LONG HORIZONTAL STROKE",
    "22f3 ELEMENT OF WITH VERTICAL BAR AT END OF HORIZONTAL STROKE",
    "22f4 SMALL ELEMENT OF WITH VERTICAL BAR AT END OF HORIZONTAL STROKE",
    "22f5 ELEMENT OF WITH DOT ABOVE;ELEMENT OF WITH OVERBAR;SMALL ELEMENT OF WITH OVERBAR",
    "22f8 ELEMENT OF WITH UNDERBAR;ELEMENT OF WITH TWO HORIZONTAL STROKES",
    "22fa CONTAINS WITH LONG HORIZONTAL STROKE",
    "22fb CONTAINS WITH VERTICAL BAR AT END OF HORIZONTAL STROKE",
    "22fc SMALL CONTAINS WITH VERTICAL BAR AT END OF HORIZONTAL STROKE;CONTAINS WITH OVERBAR",
    "22fe SMALL CONTAINS WITH OVERBAR;Z NOTATION BAG MEMBERSHIP;DIAMETER SIGN;ELECTRIC ARROW",
    "2302 HOUSE;UP ARROWHEAD;DOWN ARROWHEAD;PROJECTIVE;PERSPECTIVE;WAVY LINE;LEFT CEILING",
    "2309 RIGHT CEILING;LEFT FLOOR;RIGHT FLOOR;BOTTOM RIGHT CROP;BOTTOM LEFT CROP",
    "230e TOP RIGHT CROP;TOP LEFT CROP;REVERSED NOT SIGN;SQUARE LOZENGE;ARC;SEGMENT;SECTOR",
    "2315 TELEPHONE RECORDER;POSITION INDICATOR;VIEWDATA SQUARE;PLACE OF INTEREST SIGN",
    "2319 TURNED NOT SIGN;WATCH;HOURGLASS;TOP LEFT CORNER;TOP RIGHT CORNER;BOTTOM LEFT CORNER",
    "231f BOTTOM RIGHT CORNER;TOP HALF INTEGRAL;BOTTOM HALF INTEGRAL;FROWN;SMILE",
    "2324 UP ARROWHEAD BETWEEN TWO HORIZONTAL BARS;OPTION KEY;ERASE TO THE RIGHT",
    "2327 X IN A RECTANGLE BOX;KEYBOARD;LEFT-POINTING ANGLE BRACKET",
    "232a RIGHT-POINTING ANGLE BRACKET;ERASE TO THE LEFT;BENZENE RING;CYLINDRICITY",
    "232e ALL AROUND-PROFILE;SYMMETRY;TOTAL RUNOUT;DIMENSION ORIGIN;CONICAL TAPER;SLOPE",
    "2334 COUNTERBORE;COUNTERSINK;APL FUNCTIONAL SYMBOL I-BEAM",
    "2337 APL FUNCTIONAL SYMBOL SQUISH QUAD;APL FUNCTIONAL SYMBOL QUAD EQUAL",
    "2339 APL FUNCTIONAL SYMBOL QUAD DIVIDE;APL FUNCTIONAL SYMBOL QUAD DIAMOND",
    "233b APL FUNCTIONAL SYMBOL QUAD JOT;APL FUNCTIONAL SYMBOL QUAD CIRCLE",
    "233d APL FUNCTIONAL SYMBOL CIRCLE STILE;APL FUNCTIONAL SYMBOL CIRCLE JOT",
    "233f APL FUNCTIONAL SYMBOL SLASH BAR;APL FUNCTIONAL SYMBOL BACKSLASH BAR",
    "2341 APL FUNCTIONAL SYMBOL QUAD SLASH;APL FUNCTIONAL SYMBOL QUAD BACKSLASH",
    "2343 APL FUNCTIONAL SYMBOL QUAD LESS-THAN;APL FUNCTIONAL SYMBOL QUAD GREATER-THAN",
    "2345 APL FUNCTIONAL SYMBOL LEFTWARDS VANE;APL FUNCTIONAL SYMBOL RIGHTWARDS VANE",
    "2347 APL FUNCTIONAL SYMBOL QUAD LEFTWARDS ARROW",
    "2348 APL FUNCTIONAL SYMBOL QUAD RIGHTWARDS ARROW;APL FUNCTIONAL SYMBOL CIRCLE BACKSLASH",
    "234a APL FUNCTIONAL SYMBOL DOWN TACK UNDERBAR;APL FUNCTIONAL SYMBOL DELTA STILE",
    "234c APL FUNCTIONAL SYMBOL QUAD DOWN CARET;APL FUNCTIONAL SYMBOL QUAD DELTA",
    "234e APL FUNCTIONAL SYMBOL DOWN TACK JOT;APL FUNCTIONAL SYMBOL UPWARDS VANE",
    "2350 APL FUNCTIONAL SYMBOL QUAD UPWARDS ARROW;APL FUNCTIONAL SYMBOL UP TACK OVERBAR",
    "2352 APL FUNCTIONAL SYMBOL DEL STILE;APL FUNCTIONAL SYMBOL QUAD UP CARET",
    "2354 APL FUNCTIONAL SYMBOL QUAD DEL;APL FUNCTIONAL SYMBOL UP TACK JOT"]

/-- The names from U+2356 to U+25A7. -/
def symbolNamesB : List String :=
  ["2356 APL FUNCTIONAL SYMBOL DOWNWARDS VANE;APL FUNCTIONAL SYMBOL QUAD DOWNWARDS ARROW",
    "2358 APL FUNCTIONAL SYMBOL QUOTE UNDERBAR;APL FUNCTIONAL SYMBOL DELTA UNDERBAR",
    "235a APL FUNCTIONAL SYMBOL DIAMOND UNDERBAR;APL FUNCTIONAL SYMBOL JOT UNDERBAR",
    "235c APL FUNCTIONAL SYMBOL CIRCLE UNDERBAR;APL FUNCTIONAL SYMBOL UP SHOE JOT",
    "235e APL FUNCTIONAL SYMBOL QUOTE QUAD;APL FUNCTIONAL SYMBOL CIRCLE STAR",
    "2360 APL FUNCTIONAL SYMBOL QUAD COLON;APL FUNCTIONAL SYMBOL UP TACK DIAERESIS",
    "2362 APL FUNCTIONAL SYMBOL DEL DIAERESIS;APL FUNCTIONAL SYMBOL STAR DIAERESIS",
    "2364 APL FUNCTIONAL SYMBOL JOT DIAERESIS;APL FUNCTIONAL SYMBOL CIRCLE DIAERESIS",
    "2366 APL FUNCTIONAL SYMBOL DOWN SHOE STILE;APL FUNCTIONAL SYMBOL LEFT SHOE STILE",
    "2368 APL FUNCTIONAL SYMBOL TILDE DIAERESIS;APL FUNCTIONAL SYMBOL GREATER-THAN DIAERESIS",
    "236a APL FUNCTIONAL SYMBOL COMMA BAR;APL FUNCTIONAL SYMBOL DEL TILDE",
    "236c APL FUNCTIONAL SYMBOL ZILDE;APL FUNCTIONAL SYMBOL STILE TILDE",
    "236e APL FUNCTIONAL SYMBOL SEMICOLON UNDERBAR;APL FUNCTIONAL SYMBOL QUAD NOT EQUAL",
    "2370 APL FUNCTIONAL SYMBOL QUAD QUESTION;APL FUNCTIONAL SYMBOL DOWN CARET TILDE",
    "2372 APL FUNCTIONAL SYMBOL UP CARET TILDE;APL FUNCTIONAL SYMBOL IOTA",
    "2374 APL FUNCTIONAL SYMBOL RHO;APL FUNCTIONAL SYMBOL OMEGA",
    "2376 APL FUNCTIONAL SYMBOL ALPHA UNDERBAR;APL FUNCTIONAL SYMBOL EPSILON UNDERBAR",
    "2378 APL FUNCTIONAL SYMBOL IOTA UNDERBAR;APL FUNCTIONAL SYMBOL OMEGA UNDERBAR",
    "237a APL FUNCTIONAL SYMBOL ALPHA;NOT CHECK MARK;RIGHT ANGLE WITH DOWNWARDS ZIGZAG ARROW",
    "237d SHOULDERED OPEN BOX;BELL SYMBOL;VERTICAL LINE WITH MIDDLE DOT;INSERTION SYMBOL",
    "2381 CONTINUOUS UNDERLINE SYMBOL;DISCONTINUOUS UNDERLINE SYMBOL;EMPHASIS SYMBOL",
    "2384 COMPOSITION SYMBOL;WHITE SQUARE WITH CENTRE VERTICAL LINE;ENTER SYMBOL",
    "2387 ALTERNATIVE KEY SYMBOL;HELM SYMBOL;CIRCLED HORIZONTAL BAR WITH NOTCH",
    "238a CIRCLED TRIANGLE DOWN;BROKEN CIRCLE WITH NORTHWEST ARROW;UNDO SYMBOL",
    "238d MONOSTABLE SYMBOL;HYSTERESIS SYMBOL;OPEN-CIRCUIT-OUTPUT H-TYPE SYMBOL",
    "2390 OPEN-CIRCUIT-OUTPUT L-TYPE SYMBOL;PASSIVE-PULL-DOWN-OUTPUT SYMBOL",
    "2392 PASSIVE-PULL-UP-OUTPUT SYMBOL;DIRECT CURRENT SYMBOL FORM TWO;SOFTWARE-FUNCTION SYMBOL",
    "2395 APL FUNCTIONAL SYMBOL QUAD;DECIMAL SEPARATOR KEY SYMBOL;PREVIOUS PAGE;NEXT PAGE",
    "2399 PRINT SCREEN SYMBOL;CLEAR SCREEN SYMBOL;LEFT PARENTHESIS UPPER HOOK",
    "239c LEFT PARENTHESIS EXTENSION;LEFT PARENTHESIS LOWER HOOK;RIGHT PARENTHESIS UPPER HOOK",
    "239f RIGHT PARENTHESIS EXTENSION;RIGHT PARENTHESIS LOWER HOOK",
    "23a1 LEFT SQUARE BRACKET UPPER CORNER;LEFT SQUARE BRACKET EXTENSION",
    "23a3 LEFT SQUARE BRACKET LOWER CORNER;RIGHT SQUARE BRACKET UPPER CORNER",
    "23a5 RIGHT SQUARE BRACKET EXTENSION;RIGHT SQUARE BRACKET LOWER CORNER",
    "23a7 LEFT CURLY BRACKET UPPER HOOK;LEFT CURLY BRACKET MIDDLE PIECE",
    "23a9 LEFT CURLY BRACKET LOWER HOOK;CURLY BRACKET EXTENSION;RIGHT CURLY BRACKET UPPER HOOK",
    "23ac RIGHT CURLY BRACKET MIDDLE PIECE;RIGHT CURLY BRACKET LOWER HOOK;INTEGRAL EXTENSION",
    "23af HORIZONTAL LINE EXTENSION;UPPER LEFT OR LOWER RIGHT CURLY BRACKET SECTION",
    "23b1 UPPER RIGHT OR LOWER LEFT CURLY BRACKET SECTION;SUMMATION TOP;SUMMATION BOTTOM",
    "23b4 TOP SQUARE BRACKET;BOTTOM SQUARE BRACKET",
    "23b6 BOTTOM SQUARE BRACKET OVER TOP SQUARE BRACKET;RADICAL SYMBOL BOTTOM",
    "23b8 LEFT VERTICAL BOX LINE;RIGHT VERTICAL BOX LINE;HORIZONTAL SCAN LINE-1",
    "23bb HORIZONTAL SCAN LINE-3;HORIZONTAL SCAN LINE-7;HORIZONTAL SCAN LINE-9",
    "23be DENTISTRY SYMBOL LIGHT VERTICAL AND TOP RIGHT",
    "23bf DENTISTRY SYMBOL LIGHT VERTICAL AND BOTTOM RIGHT",
    "23c0 DENTISTRY SYMBOL LIGHT VERTICAL WITH CIRCLE",
    "23c1 DENTISTRY SYMBOL LIGHT DOWN AND HORIZONTAL WITH CIRCLE",
    "23c2 DENTISTRY SYMBOL LIGHT UP AND HORIZONTAL WITH CIRCLE",
    "23c3 DENTISTRY SYMBOL LIGHT VERTICAL WITH TRIANGLE",
    "23c4 DENTISTRY SYMBOL LIGHT DOWN AND HORIZONTAL WITH TRIANGLE",
    "23c5 DENTISTRY SYMBOL LIGHT UP AND HORIZONTAL WITH TRIANGLE",
    "23c6 DENTISTRY SYMBOL LIGHT VERTICAL AND WAVE",
    "23c7 DENTISTRY SYMBOL LIGHT DOWN AND HORIZONTAL WITH WAVE",
    "23c8 DENTISTRY SYMBOL LIGHT UP AND HORIZONTAL WITH WAVE",
    "23c9 DENTISTRY SYMBOL LIGHT DOWN AND HORIZONTAL;DENTISTRY SYMBOL LIGHT UP AND HORIZONTAL",
    "23cb DENTISTRY SYMBOL LIGHT VERTICAL AND TOP LEFT",
    "23cc DENTISTRY SYMBOL LIGHT VERTICAL AND BOTTOM LEFT;SQUARE FOOT;RETURN SYMBOL",
    "23cf EJECT SYMBOL;VERTICAL LINE EXTENSION;METRICAL BREVE;METRICAL LONG OVER SHORT",
    "23d3 METRICAL SHORT OVER LONG;METRICAL LONG OVER TWO SHORTS;METRICAL TWO SHORTS OVER LONG",
    "23d6 METRICAL TWO SHORTS JOINED;METRICAL TRISEME;METRICAL TETRASEME;METRICAL PENTASEME",
    "23da EARTH GROUND;FUSE;TOP PARENTHESIS;BOTTOM PARENTHESIS;TOP CURLY BRACKET",
    "23df BOTTOM CURLY BRACKET;TOP TORTOISE SHELL BRACKET;BOTTOM TORTOISE SHELL BRACKET",
    "23e2 WHITE TRAPEZIUM;BENZENE RING WITH CIRCLE;STRAIGHTNESS;FLATNESS;AC CURRENT",
    "23e7 ELECTRICAL INTERSECTION;DECIMAL EXPONENT SYMBOL;BLACK RIGHT-POINTING DOUBLE TRIANGLE",
    "23ea BLACK LEFT-POINTING DOUBLE TRIANGLE;BLACK UP-POINTING DOUBLE TRIANGLE",
    "23ec BLACK DOWN-POINTING DOUBLE TRIANGLE",
    "23ed BLACK RIGHT-POINTING DOUBLE TRIANGLE WITH VERTICAL BAR",
    "23ee BLACK LEFT-POINTING DOUBLE TRIANGLE WITH VERTICAL BAR",
    "23ef BLACK RIGHT-POINTING TRIANGLE WITH DOUBLE VERTICAL BAR;ALARM CLOCK;STOPWATCH",
    "23f2 TIMER CLOCK;HOURGLASS WITH FLOWING SAND;BLACK MEDIUM LEFT-POINTING TRIANGLE",
    "23f5 BLACK MEDIUM RIGHT-POINTING TRIANGLE;BLACK MEDIUM UP-POINTING TRIANGLE",
    "23f7 BLACK MEDIUM DOWN-POINTING TRIANGLE;DOUBLE VERTICAL BAR;BLACK SQUARE FOR STOP",
    "23fa BLACK CIRCLE FOR RECORD;POWER SYMBOL;POWER ON-OFF SYMBOL;POWER ON SYMBOL",
    "23fe POWER SLEEP SYMBOL;OBSERVER EYE SYMBOL;SYMBOL FOR NULL;SYMBOL FOR START OF HEADING",
    "2402 SYMBOL FOR START OF TEXT;SYMBOL FOR END OF TEXT;SYMBOL FOR END OF TRANSMISSION",
    "2405 SYMBOL FOR ENQUIRY;SYMBOL FOR ACKNOWLEDGE;SYMBOL FOR BELL;SYMBOL FOR BACKSPACE",
    "2409 SYMBOL FOR HORIZONTAL TABULATION;SYMBOL FOR LINE FEED;SYMBOL FOR VERTICAL TABULATION",
    "240c SYMBOL FOR FORM FEED;SYMBOL FOR CARRIAGE RETURN;SYMBOL FOR SHIFT OUT",
    "240f SYMBOL FOR SHIFT IN;SYMBOL FOR DATA LINK ESCAPE;SYMBOL FOR DEVICE CONTROL ONE",
    "2412 SYMBOL FOR DEVICE CONTROL TWO;SYMBOL FOR DEVICE CONTROL THREE",
    "2414 SYMBOL FOR DEVICE CONTROL FOUR;SYMBOL FOR NEGATIVE ACKNOWLEDGE",
    "2416 SYMBOL FOR SYNCHRONOUS IDLE;SYMBOL FOR END OF TRANSMISSION BLOCK;SYMBOL FOR CANCEL",
    "2419 SYMBOL FOR END OF MEDIUM;SYMBOL FOR SUBSTITUTE;SYMBOL FOR ESCAPE",
    "241c SYMBOL FOR FILE SEPARATOR;SYMBOL FOR GROUP SEPARATOR;SYMBOL FOR RECORD SEPARATOR",
    "241f SYMBOL FOR UNIT SEPARATOR;SYMBOL FOR SPACE;SYMBOL FOR DELETE;BLANK SYMBOL;OPEN BOX",
    "2424 SYMBOL FOR NEWLINE;SYMBOL FOR DELETE FORM TWO;SYMBOL FOR SUBSTITUTE FORM TWO",
    "2440 OCR HOOK;OCR CHAIR;OCR FORK;OCR INVERTED FORK;OCR BELT BUCKLE;OCR BOW TIE",
    "2446 OCR BRANCH BANK IDENTIFICATION;OCR AMOUNT OF CHECK;OCR DASH",
    "2449 OCR CUSTOMER ACCOUNT NUMBER;OCR DOUBLE BACKSLASH",
    "2460 CIRCLED DIGIT ONE;CIRCLED DIGIT TWO;CIRCLED DIGIT THREE;CIRCLED DIGIT FOUR",
    "2464 CIRCLED DIGIT FIVE;CIRCLED DIGIT SIX;CIRCLED DIGIT SEVEN;CIRCLED DIGIT EIGHT",
    "2468 CIRCLED DIGIT NINE;CIRCLED NUMBER TEN;CIRCLED NUMBER ELEVEN;CIRCLED NUMBER TWELVE",
    "246c CIRCLED NUMBER THIRTEEN;CIRCLED NUMBER FOURTEEN;CIRCLED NUMBER FIFTEEN",
    "246f CIRCLED NUMBER SIXTEEN;CIRCLED NUMBER SEVENTEEN;CIRCLED NUMBER EIGHTEEN",
    "2472 CIRCLED NUMBER NINETEEN;CIRCLED NUMBER TWENTY;PARENTHESIZED DIGIT ONE",
    "2475 PARENTHESIZED DIGIT TWO;PARENTHESIZED DIGIT THREE;PARENTHESIZED DIGIT FOUR",
    "2478 PARENTHESIZED DIGIT FIVE;PARENTHESIZED DIGIT SIX;PARENTHESIZED DIGIT SEVEN",
    "247b PARENTHESIZED DIGIT EIGHT;PARENTHESIZED DIGIT NINE;PARENTHESIZED NUMBER TEN",
    "247e PARENTHESIZED NUMBER ELEVEN;PARENTHESIZED NUMBER TWELVE;PARENTHESIZED NUMBER THIRTEEN",
    "2481 PARENTHESIZED NUMBER FOURTEEN;PARENTHESIZED NUMBER FIFTEEN",
    "2483 PARENTHESIZED NUMBER SIXTEEN;PARENTHESIZED NUMBER SEVENTEEN",
    "2485 PARENTHESIZED NUMBER EIGHTEEN;PARENTHESIZED NUMBER NINETEEN",
    "2487 PARENTHESIZED NUMBER TWENTY;DIGIT ONE FULL STOP;DIGIT TWO FULL STOP",
    "248a DIGIT THREE FULL STOP;DIGIT FOUR FULL STOP;DIGIT FIVE FULL STOP;DIGIT SIX FULL STOP",
    "248e DIGIT SEVEN FULL STOP;DIGIT EIGHT FULL STOP;DIGIT NINE FULL STOP;NUMBER TEN FULL STOP",
    "2492 NUMBER ELEVEN FULL STOP;NUMBER TWELVE FULL STOP;NUMBER THIRTEEN FULL STOP",
    "2495 NUMBER FOURTEEN FULL STOP;NUMBER FIFTEEN FULL STOP;NUMBER SIXTEEN FULL STOP",
    "2498 NUMBER SEVENTEEN FULL STOP;NUMBER EIGHTEEN FULL STOP;NUMBER NINETEEN FULL STOP",
    "249b NUMBER TWENTY FULL STOP;PARENTHESIZED LATIN SMALL LETTER A",
    "249d PARENTHESIZED LATIN SMALL LETTER B;PARENTHESIZED LATIN SMALL LETTER C",
    "249f PARENTHESIZED LATIN SMALL LETTER D;PARENTHESIZED LATIN SMALL LETTER E",
    "24a1 PARENTHESIZED LATIN SMALL LETTER F;PARENTHESIZED LATIN SMALL LETTER G",
    "24a3 PARENTHESIZED LATIN SMALL LETTER H;PARENTHESIZED LATIN SMALL LETTER I",
    "24a5 PARENTHESIZED LATIN SMALL LETTER J;PARENTHESIZED LATIN SMALL LETTER K",
    "24a7 PARENTHESIZED LATIN SMALL LETTER L;PARENTHESIZED LATIN SMALL LETTER M",
    "24a9 PARENTHESIZED LATIN SMALL LETTER N;PARENTHESIZED LATIN SMALL LETTER O",
    "24ab PARENTHESIZED LATIN SMALL LETTER P;PARENTHESIZED LATIN SMALL LETTER Q",
    "24ad PARENTHESIZED LATIN SMALL LETTER R;PARENTHESIZED LATIN SMALL LETTER S",
    "24af PARENTHESIZED LATIN SMALL LETTER T;PARENTHESIZED LATIN SMALL LETTER U",
    "24b1 PARENTHESIZED LATIN SMALL LETTER V;PARENTHESIZED LATIN SMALL LETTER W",
    "24b3 PARENTHESIZED LATIN SMALL LETTER X;PARENTHESIZED LATIN SMALL LETTER Y",
    "24b5 PARENTHESIZED LATIN SMALL LETTER Z;CIRCLED LATIN CAPITAL LETTER A",
    "24b7 CIRCLED LATIN CAPITAL LETTER B;CIRCLED LATIN CAPITAL LETTER C",
    "24b9 CIRCLED LATIN CAPITAL LETTER D;CIRCLED LATIN CAPITAL LETTER E",
    "24bb CIRCLED LATIN CAPITAL LETTER F;CIRCLED LATIN CAPITAL LETTER G",
    "24bd CIRCLED LATIN CAPITAL LETTER H;CIRCLED LATIN CAPITAL LETTER I",
    "24bf CIRCLED LATIN CAPITAL LETTER J;CIRCLED LATIN CAPITAL LETTER K",
    "24c1 CIRCLED LATIN CAPITAL LETTER L;CIRCLED LATIN CAPITAL LETTER M",
    "24c3 CIRCLED LATIN CAPITAL LETTER N;CIRCLED LATIN CAPITAL LETTER O",
    "24c5 CIRCLED LATIN CAPITAL LETTER P;CIRCLED LATIN CAPITAL LETTER Q",
    "24c7 CIRCLED LATIN CAPITAL LETTER R;CIRCLED LATIN CAPITAL LETTER S",
    "24c9 CIRCLED LATIN CAPITAL LETTER T;CIRCLED LATIN CAPITAL LETTER U",
    "24cb CIRCLED LATIN CAPITAL LETTER V;CIRCLED LATIN CAPITAL LETTER W",
    "24cd CIRCLED LATIN CAPITAL LETTER X;CIRCLED LATIN CAPITAL LETTER Y",
    "24cf CIRCLED LATIN CAPITAL LETTER Z;CIRCLED LATIN SMALL LETTER A",
    "24d1 CIRCLED LATIN SMALL LETTER B;CIRCLED LATIN SMALL LETTER C",
    "24d3 CIRCLED LATIN SMALL LETTER D;CIRCLED LATIN SMALL LETTER E",
    "24d5 CIRCLED LATIN SMALL LETTER F;CIRCLED LATIN SMALL LETTER G",
    "24d7 CIRCLED LATIN SMALL LETTER H;CIRCLED LATIN SMALL LETTER I",
    "24d9 CIRCLED LATIN SMALL LETTER J;CIRCLED LATIN SMALL LETTER K",
    "24db CIRCLED LATIN SMALL LETTER L;CIRCLED LATIN SMALL LETTER M",
    "24dd CIRCLED LATIN SMALL LETTER N;CIRCLED LATIN SMALL LETTER O",
    "24df CIRCLED LATIN SMALL LETTER P;CIRCLED LATIN SMALL LETTER Q",
    "24e1 CIRCLED LATIN SMALL LETTER R;CIRCLED LATIN SMALL LETTER S",
    "24e3 CIRCLED LATIN SMALL LETTER T;CIRCLED LATIN SMALL LETTER U",
    "24e5 CIRCLED LATIN SMALL LETTER V;CIRCLED LATIN SMALL LETTER W",
    "24e7 CIRCLED LATIN SMALL LETTER X;CIRCLED LATIN SMALL LETTER Y",
    "24e9 CIRCLED LATIN SMALL LETTER Z;CIRCLED DIGIT ZERO;NEGATIVE CIRCLED NUMBER ELEVEN",
    "24ec NEGATIVE CIRCLED NUMBER TWELVE;NEGATIVE CIRCLED NUMBER THIRTEEN",
    "24ee NEGATIVE CIRCLED NUMBER FOURTEEN;NEGATIVE CIRCLED NUMBER FIFTEEN",
    "24f0 NEGATIVE CIRCLED NUMBER SIXTEEN;NEGATIVE CIRCLED NUMBER SEVENTEEN",
    "24f2 NEGATIVE CIRCLED NUMBER EIGHTEEN;NEGATIVE CIRCLED NUMBER NINETEEN",
    "24f4 NEGATIVE CIRCLED NUMBER TWENTY;DOUBLE CIRCLED DIGIT ONE;DOUBLE CIRCLED DIGIT TWO",
    "24f7 DOUBLE CIRCLED DIGIT THREE;DOUBLE CIRCLED DIGIT FOUR;DOUBLE CIRCLED DIGIT FIVE",
    "24fa DOUBLE CIRCLED DIGIT SIX;DOUBLE CIRCLED DIGIT SEVEN;DOUBLE CIRCLED DIGIT EIGHT",
    "24fd DOUBLE CIRCLED DIGIT NINE;DOUBLE CIRCLED NUMBER TEN;NEGATIVE CIRCLED DIGIT ZERO",
    "2500 BOX DRAWINGS LIGHT HORIZONTAL;BOX DRAWINGS HEAVY HORIZONTAL",
    "2502 BOX DRAWINGS LIGHT VERTICAL;BOX DRAWINGS HEAVY VERTICAL",
    "2504 BOX DRAWINGS LIGHT TRIPLE DASH HORIZONTAL;BOX DRAWINGS HEAVY TRIPLE DASH HORIZONTAL",
    "2506 BOX DRAWINGS LIGHT TRIPLE DASH VERTICAL;BOX DRAWINGS HEAVY TRIPLE DASH VERTICAL",
    "2508 BOX DRAWINGS LIGHT QUADRUPLE DASH HORIZONTAL",
    "2509 BOX DRAWINGS HEAVY QUADRUPLE DASH HORIZONTAL",
    "250a BOX DRAWINGS LIGHT QUADRUPLE DASH VERTICAL;BOX DRAWINGS HEAVY QUADRUPLE DASH VERTICAL",
    "250c BOX DRAWINGS LIGHT DOWN AND RIGHT;BOX DRAWINGS DOWN LIGHT AND RIGHT HEAVY",
    "250e BOX DRAWINGS DOWN HEAVY AND RIGHT LIGHT;BOX DRAWINGS HEAVY DOWN AND RIGHT",
    "2510 BOX DRAWINGS LIGHT DOWN AND LEFT;BOX DRAWINGS DOWN LIGHT AND LEFT HEAVY",
    "2512 BOX DRAWINGS DOWN HEAVY AND LEFT LIGHT;BOX DRAWINGS HEAVY DOWN AND LEFT",
    "2514 BOX DRAWINGS LIGHT UP AND RIGHT;BOX DRAWINGS UP LIGHT AND RIGHT HEAVY",
    "2516 BOX DRAWINGS UP HEAVY AND RIGHT LIGHT;BOX DRAWINGS HEAVY UP AND RIGHT",
    "2518 BOX DRAWINGS LIGHT UP AND LEFT;BOX DRAWINGS UP LIGHT AND LEFT HEAVY",
    "251a BOX DRAWINGS UP HEAVY AND LEFT LIGHT;BOX DRAWINGS HEAVY UP AND LEFT",
    "251c BOX DRAWINGS LIGHT VERTICAL AND RIGHT;BOX DRAWINGS VERTICAL LIGHT AND RIGHT HEAVY",
    "251e BOX DRAWINGS UP HEAVY AND RIGHT DOWN LIGHT;BOX DRAWINGS DOWN HEAVY AND RIGHT UP LIGHT",
    "2520 BOX DRAWINGS VERTICAL HEAVY AND RIGHT LIGHT",
    "2521 BOX DRAWINGS DOWN LIGHT AND RIGHT UP HEAVY;BOX DRAWINGS UP LIGHT AND RIGHT DOWN HEAVY",
    "2523 BOX DRAWINGS HEAVY VERTICAL AND RIGHT;BOX DRAWINGS LIGHT VERTICAL AND LEFT",
    "2525 BOX DRAWINGS VERTICAL LIGHT AND LEFT HEAVY;BOX DRAWINGS UP HEAVY AND LEFT DOWN LIGHT",
    "2527 BOX DRAWINGS DOWN HEAVY AND LEFT UP LIGHT;BOX DRAWINGS VERTICAL HEAVY AND LEFT LIGHT",
    "2529 BOX DRAWINGS DOWN LIGHT AND LEFT UP HEAVY;BOX DRAWINGS UP LIGHT AND LEFT DOWN HEAVY",
    "252b BOX DRAWINGS HEAVY VERTICAL AND LEFT;BOX DRAWINGS LIGHT DOWN AND HORIZONTAL",
    "252d BOX DRAWINGS LEFT HEAVY AND RIGHT DOWN LIGHT",
    "252e BOX DRAWINGS RIGHT HEAVY AND LEFT DOWN LIGHT",
    "252f BOX DRAWINGS DOWN LIGHT AND HORIZONTAL HEAVY",
    "2530 BOX DRAWINGS DOWN HEAVY AND HORIZONTAL LIGHT",
    "2531 BOX DRAWINGS RIGHT LIGHT AND LEFT DOWN HEAVY",
    "2532 BOX DRAWINGS LEFT LIGHT AND RIGHT DOWN HEAVY;BOX DRAWINGS HEAVY DOWN AND HORIZONTAL",
    "2534 BOX DRAWINGS LIGHT UP AND HORIZONTAL;BOX DRAWINGS LEFT HEAVY AND RIGHT UP LIGHT",
    "2536 BOX DRAWINGS RIGHT HEAVY AND LEFT UP LIGHT;BOX DRAWINGS UP LIGHT AND HORIZONTAL HEAVY",
    "2538 BOX DRAWINGS UP HEAVY AND HORIZONTAL LIGHT;BOX DRAWINGS RIGHT LIGHT AND LEFT UP HEAVY",
    "253a BOX DRAWINGS LEFT LIGHT AND RIGHT UP HEAVY;BOX DRAWINGS HEAVY UP AND HORIZONTAL",
    "253c BOX DRAWINGS LIGHT VERTICAL AND HORIZONTAL",
    "253d BOX DRAWINGS LEFT HEAVY AND RIGHT VERTICAL LIGHT",
    "253e BOX DRAWINGS RIGHT HEAVY AND LEFT VERTICAL LIGHT",
    "253f BOX DRAWINGS VERTICAL LIGHT AND HORIZONTAL HEAVY",
    "2540 BOX DRAWINGS UP HEAVY AND DOWN HORIZONTAL LIGHT",
    "2541 BOX DRAWINGS DOWN HEAVY AND UP HORIZONTAL LIGHT",
    "2542 BOX DRAWINGS VERTICAL HEAVY AND HORIZONTAL LIGHT",
    "2543 BOX DRAWINGS LEFT UP HEAVY AND RIGHT DOWN LIGHT",
    "2544 BOX DRAWINGS RIGHT UP HEAVY AND LEFT DOWN LIGHT",
    "2545 BOX DRAWINGS LEFT DOWN HEAVY AND RIGHT UP LIGHT",
    "2546 BOX DRAWINGS RIGHT DOWN HEAVY AND LEFT UP LIGHT",
    "2547 BOX DRAWINGS DOWN LIGHT AND UP HORIZONTAL HEAVY",
    "2548 BOX DRAWINGS UP LIGHT AND DOWN HORIZONTAL HEAVY",
    "2549 BOX DRAWINGS RIGHT LIGHT AND LEFT VERTICAL HEAVY",
    "254a BOX DRAWINGS LEFT LIGHT AND RIGHT VERTICAL HEAVY",
    "254b BOX DRAWINGS HEAVY VERTICAL AND HORIZONTAL;BOX DRAWINGS LIGHT DOUBLE DASH HORIZONTAL",
    "254d BOX DRAWINGS HEAVY DOUBLE DASH HORIZONTAL;BOX DRAWINGS LIGHT DOUBLE DASH VERTICAL",
    "254f BOX DRAWINGS HEAVY DOUBLE DASH VERTICAL;BOX DRAWINGS DOUBLE HORIZONTAL",
    "2551 BOX DRAWINGS DOUBLE VERTICAL;BOX DRAWINGS DOWN SINGLE AND RIGHT DOUBLE",
    "2553 BOX DRAWINGS DOWN DOUBLE AND RIGHT SINGLE;BOX DRAWINGS DOUBLE DOWN AND RIGHT",
    "2555 BOX DRAWINGS DOWN SINGLE AND LEFT DOUBLE;BOX DRAWINGS DOWN DOUBLE AND LEFT SINGLE",
    "2557 BOX DRAWINGS DOUBLE DOWN AND LEFT;BOX DRAWINGS UP SINGLE AND RIGHT DOUBLE",
    "2559 BOX DRAWINGS UP DOUBLE AND RIGHT SINGLE;BOX DRAWINGS DOUBLE UP AND RIGHT",
    "255b BOX DRAWINGS UP SINGLE AND LEFT DOUBLE;BOX DRAWINGS UP DOUBLE AND LEFT SINGLE",
    "255d BOX DRAWINGS DOUBLE UP AND LEFT;BOX DRAWINGS VERTICAL SINGLE AND RIGHT DOUBLE",
    "255f BOX DRAWINGS VERTICAL DOUBLE AND RIGHT SINGLE;BOX DRAWINGS DOUBLE VERTICAL AND RIGHT",
    "2561 BOX DRAWINGS VERTICAL SINGLE AND LEFT DOUBLE",
    "2562 BOX DRAWINGS VERTICAL DOUBLE AND LEFT SINGLE;BOX DRAWINGS DOUBLE VERTICAL AND LEFT",
    "2564 BOX DRAWINGS DOWN SINGLE AND HORIZONTAL DOUBLE",
    "2565 BOX DRAWINGS DOWN DOUBLE AND HORIZONTAL SINGLE",
    "2566 BOX DRAWINGS DOUBLE DOWN AND HORIZONTAL;BOX DRAWINGS UP SINGLE AND HORIZONTAL DOUBLE",
    "2568 BOX DRAWINGS UP DOUBLE AND HORIZONTAL SINGLE;BOX DRAWINGS DOUBLE UP AND HORIZONTAL",
    "256a BOX DRAWINGS VERTICAL SINGLE AND HORIZONTAL DOUBLE",
    "256b BOX DRAWINGS VERTICAL DOUBLE AND HORIZONTAL SINGLE",
    "256c BOX DRAWINGS DOUBLE VERTICAL AND HORIZONTAL;BOX DRAWINGS LIGHT ARC DOWN AND RIGHT",
    "256e BOX DRAWINGS LIGHT ARC DOWN AND LEFT;BOX DRAWINGS LIGHT ARC UP AND LEFT",
    "2570 BOX DRAWINGS LIGHT ARC UP AND RIGHT",
    "2571 BOX DRAWINGS LIGHT DIAGONAL UPPER RIGHT TO LOWER LEFT",
    "2572 BOX DRAWINGS LIGHT DIAGONAL UPPER LEFT TO LOWER RIGHT",
    "2573 BOX DRAWINGS LIGHT DIAGONAL CROSS;BOX DRAWINGS LIGHT LEFT;BOX DRAWINGS LIGHT UP",
    "2576 BOX DRAWINGS LIGHT RIGHT;BOX DRAWINGS LIGHT DOWN;BOX DRAWINGS HEAVY LEFT",
    "2579 BOX DRAWINGS HEAVY UP;BOX DRAWINGS HEAVY RIGHT;BOX DRAWINGS HEAVY DOWN",
    "257c BOX DRAWINGS LIGHT LEFT AND HEAVY RIGHT;BOX DRAWINGS LIGHT UP AND HEAVY DOWN",
    "257e BOX DRAWINGS HEAVY LEFT AND LIGHT RIGHT;BOX DRAWINGS HEAVY UP AND LIGHT DOWN",
    "2580 UPPER HALF BLOCK;LOWER ONE EIGHTH BLOCK;LOWER ONE QUARTER BLOCK",
    "2583 LOWER THREE EIGHTHS BLOCK;LOWER HALF BLOCK;LOWER FIVE EIGHTHS BLOCK",
    "2586 LOWER THREE QUARTERS BLOCK;LOWER SEVEN EIGHTHS BLOCK;FULL BLOCK",
    "2589 LEFT SEVEN EIGHTHS BLOCK;LEFT THREE QUARTERS BLOCK;LEFT FIVE EIGHTHS BLOCK",
    "258c LEFT HALF BLOCK;LEFT THREE EIGHTHS BLOCK;LEFT ONE QUARTER BLOCK;LEFT ONE EIGHTH BLOCK",
    "2590 RIGHT HALF BLOCK;LIGHT SHADE;MEDIUM SHADE;DARK SHADE;UPPER ONE EIGHTH BLOCK",
    "2595 RIGHT ONE EIGHTH BLOCK;QUADRANT LOWER LEFT;QUADRANT LOWER RIGHT;QUADRANT UPPER LEFT",
    "2599 QUADRANT UPPER LEFT AND LOWER LEFT AND LOWER RIGHT",
    "259a QUADRANT UPPER LEFT AND LOWER RIGHT",
    "259b QUADRANT UPPER LEFT AND UPPER RIGHT AND LOWER LEFT",
    "259c QUADRANT UPPER LEFT AND UPPER RIGHT AND LOWER RIGHT;QUADRANT UPPER RIGHT",
    "259e QUADRANT UPPER RIGHT AND LOWER LEFT",
    "259f QUADRANT UPPER RIGHT AND LOWER LEFT AND LOWER RIGHT;BLACK SQUARE;WHITE SQUARE",
    "25a2 WHITE SQUARE WITH ROUNDED CORNERS;WHITE SQUARE CONTAINING BLACK SMALL SQUARE",
    "25a4 SQUARE WITH HORIZONTAL FILL;SQUARE WITH VERTICAL FILL",
    "25a6 SQUARE WITH ORTHOGONAL CROSSHATCH FILL;SQUARE WITH UPPER LEFT TO LOWER RIGHT FILL"]

/-- The names from U+25A8 to U+2879. -/
def symbolNamesC : List String :=
  ["25a8 SQUARE WITH UPPER RIGHT TO LOWER LEFT FILL;SQUARE WITH DIAGONAL CROSSHATCH FILL",
    "25aa BLACK SMALL SQUARE;WHITE SMALL SQUARE;BLACK RECTANGLE;WHITE RECTANGLE",
    "25ae BLACK VERTICAL RECTANGLE;WHITE VERTICAL RECTANGLE;BLACK PARALLELOGRAM",
    "25b1 WHITE PARALLELOGRAM;BLACK UP-POINTING TRIANGLE;WHITE UP-POINTING TRIANGLE",
    "25b4 BLACK UP-POINTING SMALL TRIANGLE;WHITE UP-POINTING SMALL TRIANGLE",
    "25b6 BLACK RIGHT-POINTING TRIANGLE;WHITE RIGHT-POINTING TRIANGLE",
    "25b8 BLACK RIGHT-POINTING SMALL TRIANGLE;WHITE RIGHT-POINTING SMALL TRIANGLE",
    "25ba BLACK RIGHT-POINTING POINTER;WHITE RIGHT-POINTING POINTER",
    "25bc BLACK DOWN-POINTING TRIANGLE;WHITE DOWN-POINTING TRIANGLE",
    "25be BLACK DOWN-POINTING SMALL TRIANGLE;WHITE DOWN-POINTING SMALL TRIANGLE",
    "25c0 BLACK LEFT-POINTING TRIANGLE;WHITE LEFT-POINTING TRIANGLE",
    "25c2 BLACK LEFT-POINTING SMALL TRIANGLE;WHITE LEFT-POINTING SMALL TRIANGLE",
    "25c4 BLACK LEFT-POINTING POINTER;WHITE LEFT-POINTING POINTER;BLACK DIAMOND;WHITE DIAMOND",
    "25c8 WHITE DIAMOND CONTAINING BLACK SMALL DIAMOND;FISHEYE;LOZENGE;WHITE CIRCLE",
    "25cc DOTTED CIRCLE;CIRCLE WITH VERTICAL FILL;BULLSEYE;BLACK CIRCLE",
    "25d0 CIRCLE WITH LEFT HALF BLACK;CIRCLE WITH RIGHT HALF BLACK;CIRCLE WITH LOWER HALF BLACK",
    "25d3 CIRCLE WITH UPPER HALF BLACK;CIRCLE WITH UPPER RIGHT QUADRANT BLACK",
    "25d5 CIRCLE WITH ALL BUT UPPER LEFT QUADRANT BLACK;LEFT HALF BLACK CIRCLE",
    "25d7 RIGHT HALF BLACK CIRCLE;INVERSE BULLET;INVERSE WHITE CIRCLE",
    "25da UPPER HALF INVERSE WHITE CIRCLE;LOWER HALF INVERSE WHITE CIRCLE",
    "25dc UPPER LEFT QUADRANT CIRCULAR ARC;UPPER RIGHT QUADRANT CIRCULAR ARC",
    "25de LOWER RIGHT QUADRANT CIRCULAR ARC;LOWER LEFT QUADRANT CIRCULAR ARC;UPPER HALF CIRCLE",
    "25e1 LOWER HALF CIRCLE;BLACK LOWER RIGHT TRIANGLE;BLACK LOWER LEFT TRIANGLE",
    "25e4 BLACK UPPER LEFT TRIANGLE;BLACK UPPER RIGHT TRIANGLE;WHITE BULLET",
    "25e7 SQUARE WITH LEFT HALF BLACK;SQUARE WITH RIGHT HALF BLACK",
    "25e9 SQUARE WITH UPPER LEFT DIAGONAL HALF BLACK",
    "25ea SQUARE WITH LOWER RIGHT DIAGONAL HALF BLACK;WHITE SQUARE WITH VERTICAL BISECTING LINE",
    "25ec WHITE UP-POINTING TRIANGLE WITH DOT;UP-POINTING TRIANGLE WITH LEFT HALF BLACK",
    "25ee UP-POINTING TRIANGLE WITH RIGHT HALF BLACK;LARGE CIRCLE",
    "25f0 WHITE SQUARE WITH UPPER LEFT QUADRANT;WHITE SQUARE WITH LOWER LEFT QUADRANT",
    "25f2 WHITE SQUARE WITH LOWER RIGHT QUADRANT;WHITE SQUARE WITH UPPER RIGHT QUADRANT",
    "25f4 WHITE CIRCLE WITH UPPER LEFT QUADRANT;WHITE CIRCLE WITH LOWER LEFT QUADRANT",
    "25f6 WHITE CIRCLE WITH LOWER RIGHT QUADRANT;WHITE CIRCLE WITH UPPER RIGHT QUADRANT",
    "25f8 UPPER LEFT TRIANGLE;UPPER RIGHT TRIANGLE;LOWER LEFT TRIANGLE;WHITE MEDIUM SQUARE",
    "25fc BLACK MEDIUM SQUARE;WHITE MEDIUM SMALL SQUARE;BLACK MEDIUM SMALL SQUARE",
    "25ff LOWER RIGHT TRIANGLE;BLACK SUN WITH RAYS;CLOUD;UMBRELLA;SNOWMAN;COMET;BLACK STAR",
    "2606 WHITE STAR;LIGHTNING;THUNDERSTORM;SUN;ASCENDING NODE;DESCENDING NODE;CONJUNCTION",
    "260d OPPOSITION;BLACK TELEPHONE;WHITE TELEPHONE;BALLOT BOX;BALLOT BOX WITH CHECK",
    "2612 BALLOT BOX WITH X;SALTIRE;UMBRELLA WITH RAIN DROPS;HOT BEVERAGE;WHITE SHOGI PIECE",
    "2617 BLACK SHOGI PIECE;SHAMROCK;REVERSED ROTATED FLORAL HEART BULLET",
    "261a BLACK LEFT POINTING INDEX;BLACK RIGHT POINTING INDEX;WHITE LEFT POINTING INDEX",
    "261d WHITE UP POINTING INDEX;WHITE RIGHT POINTING INDEX;WHITE DOWN POINTING INDEX",
    "2620 SKULL AND CROSSBONES;CAUTION SIGN;RADIOACTIVE SIGN;BIOHAZARD SIGN;CADUCEUS;ANKH",
    "2626 ORTHODOX CROSS;CHI RHO;CROSS OF LORRAINE;CROSS OF JERUSALEM;STAR AND CRESCENT",
    "262b FARSI SYMBOL;ADI SHAKTI;HAMMER AND SICKLE;PEACE SYMBOL;YIN YANG;TRIGRAM FOR HEAVEN",
    "2631 TRIGRAM FOR LAKE;TRIGRAM FOR FIRE;TRIGRAM FOR THUNDER;TRIGRAM FOR WIND",
    "2635 TRIGRAM FOR WATER;TRIGRAM FOR MOUNTAIN;TRIGRAM FOR EARTH;WHEEL OF DHARMA",
    "2639 WHITE FROWNING FACE;WHITE SMILING FACE;BLACK SMILING FACE;WHITE SUN WITH RAYS",
    "263d FIRST QUARTER MOON;LAST QUARTER MOON;MERCURY;FEMALE SIGN;EARTH;MALE SIGN;JUPITER",
    "2644 SATURN;URANUS;NEPTUNE;PLUTO;ARIES;TAURUS;GEMINI;CANCER;LEO;VIRGO;LIBRA;SCORPIUS",
    "2650 SAGITTARIUS;CAPRICORN;AQUARIUS;PISCES;WHITE CHESS KING;WHITE CHESS QUEEN",
    "2656 WHITE CHESS ROOK;WHITE CHESS BISHOP;WHITE CHESS KNIGHT;WHITE CHESS PAWN",
    "265a BLACK CHESS KING;BLACK CHESS QUEEN;BLACK CHESS ROOK;BLACK CHESS BISHOP",
    "265e BLACK CHESS KNIGHT;BLACK CHESS PAWN;BLACK SPADE SUIT;WHITE HEART SUIT",
    "2662 WHITE DIAMOND SUIT;BLACK CLUB SUIT;WHITE SPADE SUIT;BLACK HEART SUIT",
    "2666 BLACK DIAMOND SUIT;WHITE CLUB SUIT;HOT SPRINGS;QUARTER NOTE;EIGHTH NOTE",
    "266b BEAMED EIGHTH NOTES;BEAMED SIXTEENTH NOTES;MUSIC FLAT SIGN;MUSIC NATURAL SIGN",
    "266f MUSIC SHARP SIGN;WEST SYRIAC CROSS;EAST SYRIAC CROSS;UNIVERSAL RECYCLING SYMBOL",
    "2673 RECYCLING SYMBOL FOR TYPE-1 PLASTICS;RECYCLING SYMBOL FOR TYPE-2 PLASTICS",
    "2675 RECYCLING SYMBOL FOR TYPE-3 PLASTICS;RECYCLING SYMBOL FOR TYPE-4 PLASTICS",
    "2677 RECYCLING SYMBOL FOR TYPE-5 PLASTICS;RECYCLING SYMBOL FOR TYPE-6 PLASTICS",
    "2679 RECYCLING SYMBOL FOR TYPE-7 PLASTICS;RECYCLING SYMBOL FOR GENERIC MATERIALS",
    "267b BLACK UNIVERSAL RECYCLING SYMBOL;RECYCLED PAPER SYMBOL",
    "267d PARTIALLY-RECYCLED PAPER SYMBOL;PERMANENT PAPER SIGN;WHEELCHAIR SYMBOL;DIE FACE-1",
    "2681 DIE FACE-2;DIE FACE-3;DIE FACE-4;DIE FACE-5;DIE FACE-6;WHITE CIRCLE WITH DOT RIGHT",
    "2687 WHITE CIRCLE WITH TWO DOTS;BLACK CIRCLE WITH WHITE DOT RIGHT",
    "2689 BLACK CIRCLE WITH TWO WHITE DOTS;MONOGRAM FOR YANG;MONOGRAM FOR YIN",
    "268c DIGRAM FOR GREATER YANG;DIGRAM FOR LESSER YIN;DIGRAM FOR LESSER YANG",
    "268f DIGRAM FOR GREATER YIN;WHITE FLAG;BLACK FLAG;HAMMER AND PICK;ANCHOR;CROSSED SWORDS",
    "2695 STAFF OF AESCULAPIUS;SCALES;ALEMBIC;FLOWER;GEAR;STAFF OF HERMES;ATOM SYMBOL",
    "269c FLEUR-DE-LIS;OUTLINED WHITE STAR;THREE LINES CONVERGING RIGHT",
    "269f THREE LINES CONVERGING LEFT;WARNING SIGN;HIGH VOLTAGE SIGN;DOUBLED FEMALE SIGN",
    "26a3 DOUBLED MALE SIGN;INTERLOCKED FEMALE AND MALE SIGN;MALE AND FEMALE SIGN",
    "26a6 MALE WITH STROKE SIGN;MALE WITH STROKE AND MALE AND FEMALE SIGN",
    "26a8 VERTICAL MALE WITH STROKE SIGN;HORIZONTAL MALE WITH STROKE SIGN;MEDIUM WHITE CIRCLE",
    "26ab MEDIUM BLACK CIRCLE;MEDIUM SMALL WHITE CIRCLE;MARRIAGE SYMBOL;DIVORCE SYMBOL",
    "26af UNMARRIED PARTNERSHIP SYMBOL;COFFIN;FUNERAL URN;NEUTER;CERES;PALLAS;JUNO;VESTA;CHIRON",
    "26b8 BLACK MOON LILITH;SEXTILE;SEMISEXTILE;QUINCUNX;SESQUIQUADRATE;SOCCER BALL;BASEBALL",
    "26bf SQUARED KEY;WHITE DRAUGHTS MAN;WHITE DRAUGHTS KING;BLACK DRAUGHTS MAN",
    "26c3 BLACK DRAUGHTS KING;SNOWMAN WITHOUT SNOW;SUN BEHIND CLOUD;RAIN;BLACK SNOWMAN",
    "26c8 THUNDER CLOUD AND RAIN;TURNED WHITE SHOGI PIECE;TURNED BLACK SHOGI PIECE",
    "26cb WHITE DIAMOND IN SQUARE;CROSSING LANES;DISABLED CAR;OPHIUCHUS;PICK;CAR SLIDING",
    "26d1 HELMET WITH WHITE CROSS;CIRCLED CROSSING LANES;CHAINS;NO ENTRY",
    "26d5 ALTERNATE ONE-WAY LEFT WAY TRAFFIC;BLACK TWO-WAY LEFT WAY TRAFFIC",
    "26d7 WHITE TWO-WAY LEFT WAY TRAFFIC;BLACK LEFT LANE MERGE;WHITE LEFT LANE MERGE",
    "26da DRIVE SLOW SIGN;HEAVY WHITE DOWN-POINTING TRIANGLE;LEFT CLOSED ENTRY;SQUARED SALTIRE",
    "26de FALLING DIAGONAL IN WHITE CIRCLE IN BLACK SQUARE;BLACK TRUCK;RESTRICTED LEFT ENTRY-1",
    "26e1 RESTRICTED LEFT ENTRY-2;ASTRONOMICAL SYMBOL FOR URANUS",
    "26e3 HEAVY CIRCLE WITH STROKE AND TWO DOTS ABOVE;PENTAGRAM",
    "26e5 RIGHT-HANDED INTERLACED PENTAGRAM;LEFT-HANDED INTERLACED PENTAGRAM;INVERTED PENTAGRAM",
    "26e8 BLACK CROSS ON SHIELD;SHINTO SHRINE;CHURCH;CASTLE;HISTORIC SITE;GEAR WITHOUT HUB",
    "26ee GEAR WITH HANDLES;MAP SYMBOL FOR LIGHTHOUSE;MOUNTAIN;UMBRELLA ON GROUND;FOUNTAIN",
    "26f3 FLAG IN HOLE;FERRY;SAILBOAT;SQUARE FOUR CORNERS;SKIER;ICE SKATE;PERSON WITH BALL;TENT",
    "26fb JAPANESE BANK SYMBOL;HEADSTONE GRAVEYARD SYMBOL;FUEL PUMP;CUP ON BLACK SQUARE",
    "26ff WHITE FLAG WITH HORIZONTAL MIDDLE BLACK STRIPE;BLACK SAFETY SCISSORS",
    "2701 UPPER BLADE SCISSORS;BLACK SCISSORS;LOWER BLADE SCISSORS;WHITE SCISSORS",
    "2705 WHITE HEAVY CHECK MARK;TELEPHONE LOCATION SIGN;TAPE DRIVE;AIRPLANE;ENVELOPE",
    "270a RAISED FIST;RAISED HAND;VICTORY HAND;WRITING HAND;LOWER RIGHT PENCIL;PENCIL",
    "2710 UPPER RIGHT PENCIL;WHITE NIB;BLACK NIB;CHECK MARK;HEAVY CHECK MARK;MULTIPLICATION X",
    "2716 HEAVY MULTIPLICATION X;BALLOT X;HEAVY BALLOT X;OUTLINED GREEK CROSS;HEAVY GREEK CROSS",
    "271b OPEN CENTRE CROSS;HEAVY OPEN CENTRE CROSS;LATIN CROSS;SHADOWED WHITE LATIN CROSS",
    "271f OUTLINED LATIN CROSS;MALTESE CROSS;STAR OF DAVID;FOUR TEARDROP-SPOKED ASTERISK",
    "2723 FOUR BALLOON-SPOKED ASTERISK;HEAVY FOUR BALLOON-SPOKED ASTERISK",
    "2725 FOUR CLUB-SPOKED ASTERISK;BLACK FOUR POINTED STAR;WHITE FOUR POINTED STAR;SPARKLES",
    "2729 STRESS OUTLINED WHITE STAR;CIRCLED WHITE STAR;OPEN CENTRE BLACK STAR",
    "272c BLACK CENTRE WHITE STAR;OUTLINED BLACK STAR;HEAVY OUTLINED BLACK STAR;PINWHEEL STAR",
    "2730 SHADOWED WHITE STAR;HEAVY ASTERISK;OPEN CENTRE ASTERISK;EIGHT SPOKED ASTERISK",
    "2734 EIGHT POINTED BLACK STAR;EIGHT POINTED PINWHEEL STAR;SIX POINTED BLACK STAR",
    "2737 EIGHT POINTED RECTILINEAR BLACK STAR;HEAVY EIGHT POINTED RECTILINEAR BLACK STAR",
    "2739 TWELVE POINTED BLACK STAR;SIXTEEN POINTED ASTERISK;TEARDROP-SPOKED ASTERISK",
    "273c OPEN CENTRE TEARDROP-SPOKED ASTERISK;HEAVY TEARDROP-SPOKED ASTERISK",
    "273e SIX PETALLED BLACK AND WHITE FLORETTE;BLACK FLORETTE;WHITE FLORETTE",
    "2741 EIGHT PETALLED OUTLINED BLACK FLORETTE;CIRCLED OPEN CENTRE EIGHT POINTED STAR",
    "2743 HEAVY TEARDROP-SPOKED PINWHEEL ASTERISK;SNOWFLAKE;TIGHT TRIFOLIATE SNOWFLAKE",
    "2746 HEAVY CHEVRON SNOWFLAKE;SPARKLE;HEAVY SPARKLE;BALLOON-SPOKED ASTERISK",
    "274a EIGHT TEARDROP-SPOKED PROPELLER ASTERISK",
    "274b HEAVY EIGHT TEARDROP-SPOKED PROPELLER ASTERISK;CROSS MARK;SHADOWED WHITE CIRCLE",
    "274e NEGATIVE SQUARED CROSS MARK;LOWER RIGHT DROP-SHADOWED WHITE SQUARE",
    "2750 UPPER RIGHT DROP-SHADOWED WHITE SQUARE;LOWER RIGHT SHADOWED WHITE SQUARE",
    "2752 UPPER RIGHT SHADOWED WHITE SQUARE;BLACK QUESTION MARK ORNAMENT",
    "2754 WHITE QUESTION MARK ORNAMENT;WHITE EXCLAMATION MARK ORNAMENT",
    "2756 BLACK DIAMOND MINUS WHITE X;HEAVY EXCLAMATION MARK SYMBOL;LIGHT VERTICAL BAR",
    "2759 MEDIUM VERTICAL BAR;HEAVY VERTICAL BAR",
    "275b HEAVY SINGLE TURNED COMMA QUOTATION MARK ORNAMENT",
    "275c HEAVY SINGLE COMMA QUOTATION MARK ORNAMENT",
    "275d HEAVY DOUBLE TURNED COMMA QUOTATION MARK ORNAMENT",
    "275e HEAVY DOUBLE COMMA QUOTATION MARK ORNAMENT",
    "275f HEAVY LOW SINGLE COMMA QUOTATION MARK ORNAMENT",
    "2760 HEAVY LOW DOUBLE COMMA QUOTATION MARK ORNAMENT;CURVED STEM PARAGRAPH SIGN ORNAMENT",
    "2762 HEAVY EXCLAMATION MARK ORNAMENT;HEAVY HEART EXCLAMATION MARK ORNAMENT",
    "2764 HEAVY BLACK HEART;ROTATED HEAVY BLACK HEART BULLET;FLORAL HEART",
    "2767 ROTATED FLORAL HEART BULLET;MEDIUM LEFT PARENTHESIS ORNAMENT",
    "2769 MEDIUM RIGHT PARENTHESIS ORNAMENT;MEDIUM FLATTENED LEFT PARENTHESIS ORNAMENT",
    "276b MEDIUM FLATTENED RIGHT PARENTHESIS ORNAMENT",
    "276c MEDIUM LEFT-POINTING ANGLE BRACKET ORNAMENT",
    "276d MEDIUM RIGHT-POINTING ANGLE BRACKET ORNAMENT",
    "276e HEAVY LEFT-POINTING ANGLE QUOTATION MARK ORNAMENT",
    "276f HEAVY RIGHT-POINTING ANGLE QUOTATION MARK ORNAMENT",
    "2770 HEAVY LEFT-POINTING ANGLE BRACKET ORNAMENT",
    "2771 HEAVY RIGHT-POINTING ANGLE BRACKET ORNAMENT",
    "2772 LIGHT LEFT TORTOISE SHELL BRACKET ORNAMENT",
    "2773 LIGHT RIGHT TORTOISE SHELL BRACKET ORNAMENT;MEDIUM LEFT CURLY BRACKET ORNAMENT",
    "2775 MEDIUM RIGHT CURLY BRACKET ORNAMENT;DINGBAT NEGATIVE CIRCLED DIGIT ONE",
    "2777 DINGBAT NEGATIVE CIRCLED DIGIT TWO;DINGBAT NEGATIVE CIRCLED DIGIT THREE",
    "2779 DINGBAT NEGATIVE CIRCLED DIGIT FOUR;DINGBAT NEGATIVE CIRCLED DIGIT FIVE",
    "277b DINGBAT NEGATIVE CIRCLED DIGIT SIX;DINGBAT NEGATIVE CIRCLED DIGIT SEVEN",
    "277d DINGBAT NEGATIVE CIRCLED DIGIT EIGHT;DINGBAT NEGATIVE CIRCLED DIGIT NINE",
    "277f DINGBAT NEGATIVE CIRCLED NUMBER TEN;DINGBAT CIRCLED SANS-SERIF DIGIT ONE",
    "2781 DINGBAT CIRCLED SANS-SERIF DIGIT TWO;DINGBAT CIRCLED SANS-SERIF DIGIT THREE",
    "2783 DINGBAT CIRCLED SANS-SERIF DIGIT FOUR;DINGBAT CIRCLED SANS-SERIF DIGIT FIVE",
    "2785 DINGBAT CIRCLED SANS-SERIF DIGIT SIX;DINGBAT CIRCLED SANS-SERIF DIGIT SEVEN",
    "2787 DINGBAT CIRCLED SANS-SERIF DIGIT EIGHT;DINGBAT CIRCLED SANS-SERIF DIGIT NINE",
    "2789 DINGBAT CIRCLED SANS-SERIF NUMBER TEN;DINGBAT NEGATIVE CIRCLED SANS-SERIF DIGIT ONE",
    "278b DINGBAT NEGATIVE CIRCLED SANS-SERIF DIGIT TWO",
    "278c DINGBAT NEGATIVE CIRCLED SANS-SERIF DIGIT THREE",
    "278d DINGBAT NEGATIVE CIRCLED SANS-SERIF DIGIT FOUR",
    "278e DINGBAT NEGATIVE CIRCLED SANS-SERIF DIGIT FIVE",
    "278f DINGBAT NEGATIVE CIRCLED SANS-SERIF DIGIT SIX",
    "2790 DINGBAT NEGATIVE CIRCLED SANS-SERIF DIGIT SEVEN",
    "2791 DINGBAT NEGATIVE CIRCLED SANS-SERIF DIGIT EIGHT",
    "2792 DINGBAT NEGATIVE CIRCLED SANS-SERIF DIGIT NINE",
    "2793 DINGBAT NEGATIVE CIRCLED SANS-SERIF NUMBER TEN;HEAVY WIDE-HEADED RIGHTWARDS ARROW",
    "2795 HEAVY PLUS SIGN;HEAVY MINUS SIGN;HEAVY DIVISION SIGN;HEAVY SOUTH EAST ARROW",
    "2799 HEAVY RIGHTWARDS ARROW;HEAVY NORTH EAST ARROW;DRAFTING POINT RIGHTWARDS ARROW",
    "279c HEAVY ROUND-TIPPED RIGHTWARDS ARROW;TRIANGLE-HEADED RIGHTWARDS ARROW",
    "279e HEAVY TRIANGLE-HEADED RIGHTWARDS ARROW;DASHED TRIANGLE-HEADED RIGHTWARDS ARROW",
    "27a0 HEAVY DASHED TRIANGLE-HEADED RIGHTWARDS ARROW;BLACK RIGHTWARDS ARROW",
    "27a2 THREE-D TOP-LIGHTED RIGHTWARDS ARROWHEAD;THREE-D BOTTOM-LIGHTED RIGHTWARDS ARROWHEAD",
    "27a4 BLACK RIGHTWARDS ARROWHEAD;HEAVY BLACK CURVED DOWNWARDS AND RIGHTWARDS ARROW",
    "27a6 HEAVY BLACK CURVED UPWARDS AND RIGHTWARDS ARROW;SQUAT BLACK RIGHTWARDS ARROW",
    "27a8 HEAVY CONCAVE-POINTED BLACK RIGHTWARDS ARROW;RIGHT-SHADED WHITE RIGHTWARDS ARROW",
    "27aa LEFT-SHADED WHITE RIGHTWARDS ARROW;BACK-TILTED SHADOWED WHITE RIGHTWARDS ARROW",
    "27ac FRONT-TILTED SHADOWED WHITE RIGHTWARDS ARROW",
    "27ad HEAVY LOWER RIGHT-SHADOWED WHITE RIGHTWARDS ARROW",
    "27ae HEAVY UPPER RIGHT-SHADOWED WHITE RIGHTWARDS ARROW",
    "27af NOTCHED LOWER RIGHT-SHADOWED WHITE RIGHTWARDS ARROW;CURLY LOOP",
    "27b1 NOTCHED UPPER RIGHT-SHADOWED WHITE RIGHTWARDS ARROW",
    "27b2 CIRCLED HEAVY WHITE RIGHTWARDS ARROW;WHITE-FEATHERED RIGHTWARDS ARROW",
    "27b4 BLACK-FEATHERED SOUTH EAST ARROW;BLACK-FEATHERED RIGHTWARDS ARROW",
    "27b6 BLACK-FEATHERED NORTH EAST ARROW;HEAVY BLACK-FEATHERED SOUTH EAST ARROW",
    "27b8 HEAVY BLACK-FEATHERED RIGHTWARDS ARROW;HEAVY BLACK-FEATHERED NORTH EAST ARROW",
    "27ba TEARDROP-BARBED RIGHTWARDS ARROW;HEAVY TEARDROP-SHANKED RIGHTWARDS ARROW",
    "27bc WEDGE-TAILED RIGHTWARDS ARROW;HEAVY WEDGE-TAILED RIGHTWARDS ARROW",
    "27be OPEN-OUTLINED RIGHTWARDS ARROW;DOUBLE CURLY LOOP;THREE DIMENSIONAL ANGLE",
    "27c1 WHITE TRIANGLE CONTAINING SMALL WHITE TRIANGLE;PERPENDICULAR;OPEN SUBSET",
    "27c4 OPEN SUPERSET;LEFT S-SHAPED BAG DELIMITER;RIGHT S-SHAPED BAG DELIMITER",
    "27c7 OR WITH DOT INSIDE;REVERSE SOLIDUS PRECEDING SUBSET;SUPERSET PRECEDING SOLIDUS",
    "27ca VERTICAL BAR WITH HORIZONTAL STROKE;MATHEMATICAL RISING DIAGONAL;LONG DIVISION",
    "27cd MATHEMATICAL FALLING DIAGONAL;SQUARED LOGICAL AND;SQUARED LOGICAL OR",
    "27d0 WHITE DIAMOND WITH CENTRED DOT;AND WITH DOT;ELEMENT OF OPENING UPWARDS",
    "27d3 LOWER RIGHT CORNER WITH DOT;UPPER LEFT CORNER WITH DOT;LEFT OUTER JOIN",
    "27d6 RIGHT OUTER JOIN;FULL OUTER JOIN;LARGE UP TACK;LARGE DOWN TACK",
    "27da LEFT AND RIGHT DOUBLE TURNSTILE;LEFT AND RIGHT TACK;LEFT MULTIMAP;LONG RIGHT TACK",
    "27de LONG LEFT TACK;UP TACK WITH CIRCLE ABOVE;LOZENGE DIVIDED BY HORIZONTAL RULE",
    "27e1 WHITE CONCAVE-SIDED DIAMOND;WHITE CONCAVE-SIDED DIAMOND WITH LEFTWARDS TICK",
    "27e3 WHITE CONCAVE-SIDED DIAMOND WITH RIGHTWARDS TICK;WHITE SQUARE WITH LEFTWARDS TICK",
    "27e5 WHITE SQUARE WITH RIGHTWARDS TICK;MATHEMATICAL LEFT WHITE SQUARE BRACKET",
    "27e7 MATHEMATICAL RIGHT WHITE SQUARE BRACKET;MATHEMATICAL LEFT ANGLE BRACKET",
    "27e9 MATHEMATICAL RIGHT ANGLE BRACKET;MATHEMATICAL LEFT DOUBLE ANGLE BRACKET",
    "27eb MATHEMATICAL RIGHT DOUBLE ANGLE BRACKET",
    "27ec MATHEMATICAL LEFT WHITE TORTOISE SHELL BRACKET",
    "27ed MATHEMATICAL RIGHT WHITE TORTOISE SHELL BRACKET",
    "27ee MATHEMATICAL LEFT FLATTENED PARENTHESIS;MATHEMATICAL RIGHT FLATTENED PARENTHESIS",
    "27f0 UPWARDS QUADRUPLE ARROW;DOWNWARDS QUADRUPLE ARROW;ANTICLOCKWISE GAPPED CIRCLE ARROW",
    "27f3 CLOCKWISE GAPPED CIRCLE ARROW;RIGHT ARROW WITH CIRCLED PLUS;LONG LEFTWARDS ARROW",
    "27f6 LONG RIGHTWARDS ARROW;LONG LEFT RIGHT ARROW;LONG LEFTWARDS DOUBLE ARROW",
    "27f9 LONG RIGHTWARDS DOUBLE ARROW;LONG LEFT RIGHT DOUBLE ARROW",
    "27fb LONG LEFTWARDS ARROW FROM BAR;LONG RIGHTWARDS ARROW FROM BAR",
    "27fd LONG LEFTWARDS DOUBLE ARROW FROM BAR;LONG RIGHTWARDS DOUBLE ARROW FROM BAR",
    "27ff LONG RIGHTWARDS SQUIGGLE ARROW;BRAILLE PATTERN BLANK;BRAILLE PATTERN DOTS-1",
    "2802 BRAILLE PATTERN DOTS-2;BRAILLE PATTERN DOTS-12;BRAILLE PATTERN DOTS-3",
    "2805 BRAILLE PATTERN DOTS-13;BRAILLE PATTERN DOTS-23;BRAILLE PATTERN DOTS-123",
    "2808 BRAILLE PATTERN DOTS-4;BRAILLE PATTERN DOTS-14;BRAILLE PATTERN DOTS-24",
    "280b BRAILLE PATTERN DOTS-124;BRAILLE PATTERN DOTS-34;BRAILLE PATTERN DOTS-134",
    "280e BRAILLE PATTERN DOTS-234;BRAILLE PATTERN DOTS-1234;BRAILLE PATTERN DOTS-5",
    "2811 BRAILLE PATTERN DOTS-15;BRAILLE PATTERN DOTS-25;BRAILLE PATTERN DOTS-125",
    "2814 BRAILLE PATTERN DOTS-35;BRAILLE PATTERN DOTS-135;BRAILLE PATTERN DOTS-235",
    "2817 BRAILLE PATTERN DOTS-1235;BRAILLE PATTERN DOTS-45;BRAILLE PATTERN DOTS-145",
    "281a BRAILLE PATTERN DOTS-245;BRAILLE PATTERN DOTS-1245;BRAILLE PATTERN DOTS-345",
    "281d BRAILLE PATTERN DOTS-1345;BRAILLE PATTERN DOTS-2345;BRAILLE PATTERN DOTS-12345",
    "2820 BRAILLE PATTERN DOTS-6;BRAILLE PATTERN DOTS-16;BRAILLE PATTERN DOTS-26",
    "2823 BRAILLE PATTERN DOTS-126;BRAILLE PATTERN DOTS-36;BRAILLE PATTERN DOTS-136",
    "2826 BRAILLE PATTERN DOTS-236;BRAILLE PATTERN DOTS-1236;BRAILLE PATTERN DOTS-46",
    "2829 BRAILLE PATTERN DOTS-146;BRAILLE PATTERN DOTS-246;BRAILLE PATTERN DOTS-1246",
    "282c BRAILLE PATTERN DOTS-346;BRAILLE PATTERN DOTS-1346;BRAILLE PATTERN DOTS-2346",
    "282f BRAILLE PATTERN DOTS-12346;BRAILLE PATTERN DOTS-56;BRAILLE PATTERN DOTS-156",
    "2832 BRAILLE PATTERN DOTS-256;BRAILLE PATTERN DOTS-1256;BRAILLE PATTERN DOTS-356",
    "2835 BRAILLE PATTERN DOTS-1356;BRAILLE PATTERN DOTS-2356;BRAILLE PATTERN DOTS-12356",
    "2838 BRAILLE PATTERN DOTS-456;BRAILLE PATTERN DOTS-1456;BRAILLE PATTERN DOTS-2456",
    "283b BRAILLE PATTERN DOTS-12456;BRAILLE PATTERN DOTS-3456;BRAILLE PATTERN DOTS-13456",
    "283e BRAILLE PATTERN DOTS-23456;BRAILLE PATTERN DOTS-123456;BRAILLE PATTERN DOTS-7",
    "2841 BRAILLE PATTERN DOTS-17;BRAILLE PATTERN DOTS-27;BRAILLE PATTERN DOTS-127",
    "2844 BRAILLE PATTERN DOTS-37;BRAILLE PATTERN DOTS-137;BRAILLE PATTERN DOTS-237",
    "2847 BRAILLE PATTERN DOTS-1237;BRAILLE PATTERN DOTS-47;BRAILLE PATTERN DOTS-147",
    "284a BRAILLE PATTERN DOTS-247;BRAILLE PATTERN DOTS-1247;BRAILLE PATTERN DOTS-347",
    "284d BRAILLE PATTERN DOTS-1347;BRAILLE PATTERN DOTS-2347;BRAILLE PATTERN DOTS-12347",
    "2850 BRAILLE PATTERN DOTS-57;BRAILLE PATTERN DOTS-157;BRAILLE PATTERN DOTS-257",
    "2853 BRAILLE PATTERN DOTS-1257;BRAILLE PATTERN DOTS-357;BRAILLE PATTERN DOTS-1357",
    "2856 BRAILLE PATTERN DOTS-2357;BRAILLE PATTERN DOTS-12357;BRAILLE PATTERN DOTS-457",
    "2859 BRAILLE PATTERN DOTS-1457;BRAILLE PATTERN DOTS-2457;BRAILLE PATTERN DOTS-12457",
    "285c BRAILLE PATTERN DOTS-3457;BRAILLE PATTERN DOTS-13457;BRAILLE PATTERN DOTS-23457",
    "285f BRAILLE PATTERN DOTS-123457;BRAILLE PATTERN DOTS-67;BRAILLE PATTERN DOTS-167",
    "2862 BRAILLE PATTERN DOTS-267;BRAILLE PATTERN DOTS-1267;BRAILLE PATTERN DOTS-367",
    "2865 BRAILLE PATTERN DOTS-1367;BRAILLE PATTERN DOTS-2367;BRAILLE PATTERN DOTS-12367",
    "2868 BRAILLE PATTERN DOTS-467;BRAILLE PATTERN DOTS-1467;BRAILLE PATTERN DOTS-2467",
    "286b BRAILLE PATTERN DOTS-12467;BRAILLE PATTERN DOTS-3467;BRAILLE PATTERN DOTS-13467",
    "286e BRAILLE PATTERN DOTS-23467;BRAILLE PATTERN DOTS-123467;BRAILLE PATTERN DOTS-567",
    "2871 BRAILLE PATTERN DOTS-1567;BRAILLE PATTERN DOTS-2567;BRAILLE PATTERN DOTS-12567",
    "2874 BRAILLE PATTERN DOTS-3567;BRAILLE PATTERN DOTS-13567;BRAILLE PATTERN DOTS-23567",
    "2877 BRAILLE PATTERN DOTS-123567;BRAILLE PATTERN DOTS-4567;BRAILLE PATTERN DOTS-14567"]

/-- The names from U+287A to U+2A9D. -/
def symbolNamesD : List String :=
  ["287a BRAILLE PATTERN DOTS-24567;BRAILLE PATTERN DOTS-124567;BRAILLE PATTERN DOTS-34567",
    "287d BRAILLE PATTERN DOTS-134567;BRAILLE PATTERN DOTS-234567;BRAILLE PATTERN DOTS-1234567",
    "2880 BRAILLE PATTERN DOTS-8;BRAILLE PATTERN DOTS-18;BRAILLE PATTERN DOTS-28",
    "2883 BRAILLE PATTERN DOTS-128;BRAILLE PATTERN DOTS-38;BRAILLE PATTERN DOTS-138",
    "2886 BRAILLE PATTERN DOTS-238;BRAILLE PATTERN DOTS-1238;BRAILLE PATTERN DOTS-48",
    "2889 BRAILLE PATTERN DOTS-148;BRAILLE PATTERN DOTS-248;BRAILLE PATTERN DOTS-1248",
    "288c BRAILLE PATTERN DOTS-348;BRAILLE PATTERN DOTS-1348;BRAILLE PATTERN DOTS-2348",
    "288f BRAILLE PATTERN DOTS-12348;BRAILLE PATTERN DOTS-58;BRAILLE PATTERN DOTS-158",
    "2892 BRAILLE PATTERN DOTS-258;BRAILLE PATTERN DOTS-1258;BRAILLE PATTERN DOTS-358",
    "2895 BRAILLE PATTERN DOTS-1358;BRAILLE PATTERN DOTS-2358;BRAILLE PATTERN DOTS-12358",
    "2898 BRAILLE PATTERN DOTS-458;BRAILLE PATTERN DOTS-1458;BRAILLE PATTERN DOTS-2458",
    "289b BRAILLE PATTERN DOTS-12458;BRAILLE PATTERN DOTS-3458;BRAILLE PATTERN DOTS-13458",
    "289e BRAILLE PATTERN DOTS-23458;BRAILLE PATTERN DOTS-123458;BRAILLE PATTERN DOTS-68",
    "28a1 BRAILLE PATTERN DOTS-168;BRAILLE PATTERN DOTS-268;BRAILLE PATTERN DOTS-1268",
    "28a4 BRAILLE PATTERN DOTS-368;BRAILLE PATTERN DOTS-1368;BRAILLE PATTERN DOTS-2368",
    "28a7 BRAILLE PATTERN DOTS-12368;BRAILLE PATTERN DOTS-468;BRAILLE PATTERN DOTS-1468",
    "28aa BRAILLE PATTERN DOTS-2468;BRAILLE PATTERN DOTS-12468;BRAILLE PATTERN DOTS-3468",
    "28ad BRAILLE PATTERN DOTS-13468;BRAILLE PATTERN DOTS-23468;BRAILLE PATTERN DOTS-123468",
    "28b0 BRAILLE PATTERN DOTS-568;BRAILLE PATTERN DOTS-1568;BRAILLE PATTERN DOTS-2568",
    "28b3 BRAILLE PATTERN DOTS-12568;BRAILLE PATTERN DOTS-3568;BRAILLE PATTERN DOTS-13568",
    "28b6 BRAILLE PATTERN DOTS-23568;BRAILLE PATTERN DOTS-123568;BRAILLE PATTERN DOTS-4568",
    "28b9 BRAILLE PATTERN DOTS-14568;BRAILLE PATTERN DOTS-24568;BRAILLE PATTERN DOTS-124568",
    "28bc BRAILLE PATTERN DOTS-34568;BRAILLE PATTERN DOTS-134568;BRAILLE PATTERN DOTS-234568",
    "28bf BRAILLE PATTERN DOTS-1234568;BRAILLE PATTERN DOTS-78;BRAILLE PATTERN DOTS-178",
    "28c2 BRAILLE PATTERN DOTS-278;BRAILLE PATTERN DOTS-1278;BRAILLE PATTERN DOTS-378",
    "28c5 BRAILLE PATTERN DOTS-1378;BRAILLE PATTERN DOTS-2378;BRAILLE PATTERN DOTS-12378",
    "28c8 BRAILLE PATTERN DOTS-478;BRAILLE PATTERN DOTS-1478;BRAILLE PATTERN DOTS-2478",
    "28cb BRAILLE PATTERN DOTS-12478;BRAILLE PATTERN DOTS-3478;BRAILLE PATTERN DOTS-13478",
    "28ce BRAILLE PATTERN DOTS-23478;BRAILLE PATTERN DOTS-123478;BRAILLE PATTERN DOTS-578",
    "28d1 BRAILLE PATTERN DOTS-1578;BRAILLE PATTERN DOTS-2578;BRAILLE PATTERN DOTS-12578",
    "28d4 BRAILLE PATTERN DOTS-3578;BRAILLE PATTERN DOTS-13578;BRAILLE PATTERN DOTS-23578",
    "28d7 BRAILLE PATTERN DOTS-123578;BRAILLE PATTERN DOTS-4578;BRAILLE PATTERN DOTS-14578",
    "28da BRAILLE PATTERN DOTS-24578;BRAILLE PATTERN DOTS-124578;BRAILLE PATTERN DOTS-34578",
    "28dd BRAILLE PATTERN DOTS-134578;BRAILLE PATTERN DOTS-234578;BRAILLE PATTERN DOTS-1234578",
    "28e0 BRAILLE PATTERN DOTS-678;BRAILLE PATTERN DOTS-1678;BRAILLE PATTERN DOTS-2678",
    "28e3 BRAILLE PATTERN DOTS-12678;BRAILLE PATTERN DOTS-3678;BRAILLE PATTERN DOTS-13678",
    "28e6 BRAILLE PATTERN DOTS-23678;BRAILLE PATTERN DOTS-123678;BRAILLE PATTERN DOTS-4678",
    "28e9 BRAILLE PATTERN DOTS-14678;BRAILLE PATTERN DOTS-24678;BRAILLE PATTERN DOTS-124678",
    "28ec BRAILLE PATTERN DOTS-34678;BRAILLE PATTERN DOTS-134678;BRAILLE PATTERN DOTS-234678",
    "28ef BRAILLE PATTERN DOTS-1234678;BRAILLE PATTERN DOTS-5678;BRAILLE PATTERN DOTS-15678",
    "28f2 BRAILLE PATTERN DOTS-25678;BRAILLE PATTERN DOTS-125678;BRAILLE PATTERN DOTS-35678",
    "28f5 BRAILLE PATTERN DOTS-135678;BRAILLE PATTERN DOTS-235678;BRAILLE PATTERN DOTS-1235678",
    "28f8 BRAILLE PATTERN DOTS-45678;BRAILLE PATTERN DOTS-145678;BRAILLE PATTERN DOTS-245678",
    "28fb BRAILLE PATTERN DOTS-1245678;BRAILLE PATTERN DOTS-345678;BRAILLE PATTERN DOTS-1345678",
    "28fe BRAILLE PATTERN DOTS-2345678;BRAILLE PATTERN DOTS-12345678",
    "2900 RIGHTWARDS TWO-HEADED ARROW WITH VERTICAL STROKE",
    "2901 RIGHTWARDS TWO-HEADED ARROW WITH DOUBLE VERTICAL STROKE",
    "2902 LEFTWARDS DOUBLE ARROW WITH VERTICAL STROKE",
    "2903 RIGHTWARDS DOUBLE ARROW WITH VERTICAL STROKE",
    "2904 LEFT RIGHT DOUBLE ARROW WITH VERTICAL STROKE;RIGHTWARDS TWO-HEADED ARROW FROM BAR",
    "2906 LEFTWARDS DOUBLE ARROW FROM BAR;RIGHTWARDS DOUBLE ARROW FROM BAR",
    "2908 DOWNWARDS ARROW WITH HORIZONTAL STROKE;UPWARDS ARROW WITH HORIZONTAL STROKE",
    "290a UPWARDS TRIPLE ARROW;DOWNWARDS TRIPLE ARROW;LEFTWARDS DOUBLE DASH ARROW",
    "290d RIGHTWARDS DOUBLE DASH ARROW;LEFTWARDS TRIPLE DASH ARROW;RIGHTWARDS TRIPLE DASH ARROW",
    "2910 RIGHTWARDS TWO-HEADED TRIPLE DASH ARROW;RIGHTWARDS ARROW WITH DOTTED STEM",
    "2912 UPWARDS ARROW TO BAR;DOWNWARDS ARROW TO BAR",
    "2914 RIGHTWARDS ARROW WITH TAIL WITH VERTICAL STROKE",
    "2915 RIGHTWARDS ARROW WITH TAIL WITH DOUBLE VERTICAL STROKE",
    "2916 RIGHTWARDS TWO-HEADED ARROW WITH TAIL",
    "2917 RIGHTWARDS TWO-HEADED ARROW WITH TAIL WITH VERTICAL STROKE",
    "2918 RIGHTWARDS TWO-HEADED ARROW WITH TAIL WITH DOUBLE VERTICAL STROKE",
    "2919 LEFTWARDS ARROW-TAIL;RIGHTWARDS ARROW-TAIL;LEFTWARDS DOUBLE ARROW-TAIL",
    "291c RIGHTWARDS DOUBLE ARROW-TAIL;LEFTWARDS ARROW TO BLACK DIAMOND",
    "291e RIGHTWARDS ARROW TO BLACK DIAMOND;LEFTWARDS ARROW FROM BAR TO BLACK DIAMOND",
    "2920 RIGHTWARDS ARROW FROM BAR TO BLACK DIAMOND;NORTH WEST AND SOUTH EAST ARROW",
    "2922 NORTH EAST AND SOUTH WEST ARROW;NORTH WEST ARROW WITH HOOK;NORTH EAST ARROW WITH HOOK",
    "2925 SOUTH EAST ARROW WITH HOOK;SOUTH WEST ARROW WITH HOOK",
    "2927 NORTH WEST ARROW AND NORTH EAST ARROW;NORTH EAST ARROW AND SOUTH EAST ARROW",
    "2929 SOUTH EAST ARROW AND SOUTH WEST ARROW;SOUTH WEST ARROW AND NORTH WEST ARROW",
    "292b RISING DIAGONAL CROSSING FALLING DIAGONAL;FALLING DIAGONAL CROSSING RISING DIAGONAL",
    "292d SOUTH EAST ARROW CROSSING NORTH EAST ARROW;NORTH EAST ARROW CROSSING SOUTH EAST ARROW",
    "292f FALLING DIAGONAL CROSSING NORTH EAST ARROW;RISING DIAGONAL CROSSING SOUTH EAST ARROW",
    "2931 NORTH EAST ARROW CROSSING NORTH WEST ARROW;NORTH WEST ARROW CROSSING NORTH EAST ARROW",
    "2933 WAVE ARROW POINTING DIRECTLY RIGHT;ARROW POINTING RIGHTWARDS THEN CURVING UPWARDS",
    "2935 ARROW POINTING RIGHTWARDS THEN CURVING DOWNWARDS",
    "2936 ARROW POINTING DOWNWARDS THEN CURVING LEFTWARDS",
    "2937 ARROW POINTING DOWNWARDS THEN CURVING RIGHTWARDS;RIGHT-SIDE ARC CLOCKWISE ARROW",
    "2939 LEFT-SIDE ARC ANTICLOCKWISE ARROW;TOP ARC ANTICLOCKWISE ARROW",
    "293b BOTTOM ARC ANTICLOCKWISE ARROW;TOP ARC CLOCKWISE ARROW WITH MINUS",
    "293d TOP ARC ANTICLOCKWISE ARROW WITH PLUS;LOWER RIGHT SEMICIRCULAR CLOCKWISE ARROW",
    "293f LOWER LEFT SEMICIRCULAR ANTICLOCKWISE ARROW;ANTICLOCKWISE CLOSED CIRCLE ARROW",
    "2941 CLOCKWISE CLOSED CIRCLE ARROW;RIGHTWARDS ARROW ABOVE SHORT LEFTWARDS ARROW",
    "2943 LEFTWARDS ARROW ABOVE SHORT RIGHTWARDS ARROW",
    "2944 SHORT RIGHTWARDS ARROW ABOVE LEFTWARDS ARROW;RIGHTWARDS ARROW WITH PLUS BELOW",
    "2946 LEFTWARDS ARROW WITH PLUS BELOW;RIGHTWARDS ARROW THROUGH X",
    "2948 LEFT RIGHT ARROW THROUGH SMALL CIRCLE;UPWARDS TWO-HEADED ARROW FROM SMALL CIRCLE",
    "294a LEFT BARB UP RIGHT BARB DOWN HARPOON;LEFT BARB DOWN RIGHT BARB UP HARPOON",
    "294c UP BARB RIGHT DOWN BARB LEFT HARPOON;UP BARB LEFT DOWN BARB RIGHT HARPOON",
    "294e LEFT BARB UP RIGHT BARB UP HARPOON;UP BARB RIGHT DOWN BARB RIGHT HARPOON",
    "2950 LEFT BARB DOWN RIGHT BARB DOWN HARPOON;UP BARB LEFT DOWN BARB LEFT HARPOON",
    "2952 LEFTWARDS HARPOON WITH BARB UP TO BAR;RIGHTWARDS HARPOON WITH BARB UP TO BAR",
    "2954 UPWARDS HARPOON WITH BARB RIGHT TO BAR;DOWNWARDS HARPOON WITH BARB RIGHT TO BAR",
    "2956 LEFTWARDS HARPOON WITH BARB DOWN TO BAR;RIGHTWARDS HARPOON WITH BARB DOWN TO BAR",
    "2958 UPWARDS HARPOON WITH BARB LEFT TO BAR;DOWNWARDS HARPOON WITH BARB LEFT TO BAR",
    "295a LEFTWARDS HARPOON WITH BARB UP FROM BAR;RIGHTWARDS HARPOON WITH BARB UP FROM BAR",
    "295c UPWARDS HARPOON WITH BARB RIGHT FROM BAR;DOWNWARDS HARPOON WITH BARB RIGHT FROM BAR",
    "295e LEFTWARDS HARPOON WITH BARB DOWN FROM BAR;RIGHTWARDS HARPOON WITH BARB DOWN FROM BAR",
    "2960 UPWARDS HARPOON WITH BARB LEFT FROM BAR;DOWNWARDS HARPOON WITH BARB LEFT FROM BAR",
    "2962 LEFTWARDS HARPOON WITH BARB UP ABOVE LEFTWARDS HARPOON WITH BARB DOWN",
    "2963 UPWARDS HARPOON WITH BARB LEFT BESIDE UPWARDS HARPOON WITH BARB RIGHT",
    "2964 RIGHTWARDS HARPOON WITH BARB UP ABOVE RIGHTWARDS HARPOON WITH BARB DOWN",
    "2965 DOWNWARDS HARPOON WITH BARB LEFT BESIDE DOWNWARDS HARPOON WITH BARB RIGHT",
    "2966 LEFTWARDS HARPOON WITH BARB UP ABOVE RIGHTWARDS HARPOON WITH BARB UP",
    "2967 LEFTWARDS HARPOON WITH BARB DOWN ABOVE RIGHTWARDS HARPOON WITH BARB DOWN",
    "2968 RIGHTWARDS HARPOON WITH BARB UP ABOVE LEFTWARDS HARPOON WITH BARB UP",
    "2969 RIGHTWARDS HARPOON WITH BARB DOWN ABOVE LEFTWARDS HARPOON WITH BARB DOWN",
    "296a LEFTWARDS HARPOON WITH BARB UP ABOVE LONG DASH",
    "296b LEFTWARDS HARPOON WITH BARB DOWN BELOW LONG DASH",
    "296c RIGHTWARDS HARPOON WITH BARB UP ABOVE LONG DASH",
    "296d RIGHTWARDS HARPOON WITH BARB DOWN BELOW LONG DASH",
    "296e UPWARDS HARPOON WITH BARB LEFT BESIDE DOWNWARDS HARPOON WITH BARB RIGHT",
    "296f DOWNWARDS HARPOON WITH BARB LEFT BESIDE UPWARDS HARPOON WITH BARB RIGHT",
    "2970 RIGHT DOUBLE ARROW WITH ROUNDED HEAD;EQUALS SIGN ABOVE RIGHTWARDS ARROW",
    "2972 TILDE OPERATOR ABOVE RIGHTWARDS ARROW;LEFTWARDS ARROW ABOVE TILDE OPERATOR",
    "2974 RIGHTWARDS ARROW ABOVE TILDE OPERATOR;RIGHTWARDS ARROW ABOVE ALMOST EQUAL TO",
    "2976 LESS-THAN ABOVE LEFTWARDS ARROW;LEFTWARDS ARROW THROUGH LESS-THAN",
    "2978 GREATER-THAN ABOVE RIGHTWARDS ARROW;SUBSET ABOVE RIGHTWARDS ARROW",
    "297a LEFTWARDS ARROW THROUGH SUBSET;SUPERSET ABOVE LEFTWARDS ARROW;LEFT FISH TAIL",
    "297d RIGHT FISH TAIL;UP FISH TAIL;DOWN FISH TAIL;TRIPLE VERTICAL BAR DELIMITER",
    "2981 Z NOTATION SPOT;Z NOTATION TYPE COLON;LEFT WHITE CURLY BRACKET",
    "2984 RIGHT WHITE CURLY BRACKET;LEFT WHITE PARENTHESIS;RIGHT WHITE PARENTHESIS",
    "2987 Z NOTATION LEFT IMAGE BRACKET;Z NOTATION RIGHT IMAGE BRACKET",
    "2989 Z NOTATION LEFT BINDING BRACKET;Z NOTATION RIGHT BINDING BRACKET",
    "298b LEFT SQUARE BRACKET WITH UNDERBAR;RIGHT SQUARE BRACKET WITH UNDERBAR",
    "298d LEFT SQUARE BRACKET WITH TICK IN TOP CORNER",
    "298e RIGHT SQUARE BRACKET WITH TICK IN BOTTOM CORNER",
    "298f LEFT SQUARE BRACKET WITH TICK IN BOTTOM CORNER",
    "2990 RIGHT SQUARE BRACKET WITH TICK IN TOP CORNER;LEFT ANGLE BRACKET WITH DOT",
    "2992 RIGHT ANGLE BRACKET WITH DOT;LEFT ARC LESS-THAN BRACKET",
    "2994 RIGHT ARC GREATER-THAN BRACKET;DOUBLE LEFT ARC GREATER-THAN BRACKET",
    "2996 DOUBLE RIGHT ARC LESS-THAN BRACKET;LEFT BLACK TORTOISE SHELL BRACKET",
    "2998 RIGHT BLACK TORTOISE SHELL BRACKET;DOTTED FENCE;VERTICAL ZIGZAG LINE",
    "299b MEASURED ANGLE OPENING LEFT;RIGHT ANGLE VARIANT WITH SQUARE",
    "299d MEASURED RIGHT ANGLE WITH DOT;ANGLE WITH S INSIDE;ACUTE ANGLE",
    "29a0 SPHERICAL ANGLE OPENING LEFT;SPHERICAL ANGLE OPENING UP;TURNED ANGLE;REVERSED ANGLE",
    "29a4 ANGLE WITH UNDERBAR;REVERSED ANGLE WITH UNDERBAR;OBLIQUE ANGLE OPENING UP",
    "29a7 OBLIQUE ANGLE OPENING DOWN",
    "29a8 MEASURED ANGLE WITH OPEN ARM ENDING IN ARROW POINTING UP AND RIGHT",
    "29a9 MEASURED ANGLE WITH OPEN ARM ENDING IN ARROW POINTING UP AND LEFT",
    "29aa MEASURED ANGLE WITH OPEN ARM ENDING IN ARROW POINTING DOWN AND RIGHT",
    "29ab MEASURED ANGLE WITH OPEN ARM ENDING IN ARROW POINTING DOWN AND LEFT",
    "29ac MEASURED ANGLE WITH OPEN ARM ENDING IN ARROW POINTING RIGHT AND UP",
    "29ad MEASURED ANGLE WITH OPEN ARM ENDING IN ARROW POINTING LEFT AND UP",
    "29ae MEASURED ANGLE WITH OPEN ARM ENDING IN ARROW POINTING RIGHT AND DOWN",
    "29af MEASURED ANGLE WITH OPEN ARM ENDING IN ARROW POINTING LEFT AND DOWN",
    "29b0 REVERSED EMPTY SET;EMPTY SET WITH OVERBAR;EMPTY SET WITH SMALL CIRCLE ABOVE",
    "29b3 EMPTY SET WITH RIGHT ARROW ABOVE;EMPTY SET WITH LEFT ARROW ABOVE",
    "29b5 CIRCLE WITH HORIZONTAL BAR;CIRCLED VERTICAL BAR;CIRCLED PARALLEL",
    "29b8 CIRCLED REVERSE SOLIDUS;CIRCLED PERPENDICULAR",
    "29ba CIRCLE DIVIDED BY HORIZONTAL BAR AND TOP HALF DIVIDED BY VERTICAL BAR",
    "29bb CIRCLE WITH SUPERIMPOSED X;CIRCLED ANTICLOCKWISE-ROTATED DIVISION SIGN",
    "29bd UP ARROW THROUGH CIRCLE;CIRCLED WHITE BULLET;CIRCLED BULLET;CIRCLED LESS-THAN",
    "29c1 CIRCLED GREATER-THAN;CIRCLE WITH SMALL CIRCLE TO THE RIGHT",
    "29c3 CIRCLE WITH TWO HORIZONTAL STROKES TO THE RIGHT;SQUARED RISING DIAGONAL SLASH",
    "29c5 SQUARED FALLING DIAGONAL SLASH;SQUARED ASTERISK;SQUARED SMALL CIRCLE;SQUARED SQUARE",
    "29c9 TWO JOINED SQUARES;TRIANGLE WITH DOT ABOVE;TRIANGLE WITH UNDERBAR;S IN TRIANGLE",
    "29cd TRIANGLE WITH SERIFS AT BOTTOM;RIGHT TRIANGLE ABOVE LEFT TRIANGLE",
    "29cf LEFT TRIANGLE BESIDE VERTICAL BAR;VERTICAL BAR BESIDE RIGHT TRIANGLE",
    "29d1 BOWTIE WITH LEFT HALF BLACK;BOWTIE WITH RIGHT HALF BLACK;BLACK BOWTIE",
    "29d4 TIMES WITH LEFT HALF BLACK;TIMES WITH RIGHT HALF BLACK;WHITE HOURGLASS",
    "29d7 BLACK HOURGLASS;LEFT WIGGLY FENCE;RIGHT WIGGLY FENCE;LEFT DOUBLE WIGGLY FENCE",
    "29db RIGHT DOUBLE WIGGLY FENCE;INCOMPLETE INFINITY;TIE OVER INFINITY",
    "29de INFINITY NEGATED WITH VERTICAL BAR;DOUBLE-ENDED MULTIMAP",
    "29e0 SQUARE WITH CONTOURED OUTLINE;INCREASES AS;SHUFFLE PRODUCT",
    "29e3 EQUALS SIGN AND SLANTED PARALLEL;EQUALS SIGN AND SLANTED PARALLEL WITH TILDE ABOVE",
    "29e5 IDENTICAL TO AND SLANTED PARALLEL;GLEICH STARK;THERMODYNAMIC",
    "29e8 DOWN-POINTING TRIANGLE WITH LEFT HALF BLACK",
    "29e9 DOWN-POINTING TRIANGLE WITH RIGHT HALF BLACK;BLACK DIAMOND WITH DOWN ARROW",
    "29eb BLACK LOZENGE;WHITE CIRCLE WITH DOWN ARROW;BLACK CIRCLE WITH DOWN ARROW",
    "29ee ERROR-BARRED WHITE SQUARE;ERROR-BARRED BLACK SQUARE;ERROR-BARRED WHITE DIAMOND",
    "29f1 ERROR-BARRED BLACK DIAMOND;ERROR-BARRED WHITE CIRCLE;ERROR-BARRED BLACK CIRCLE",
    "29f4 RULE-DELAYED;REVERSE SOLIDUS OPERATOR;SOLIDUS WITH OVERBAR",
    "29f7 REVERSE SOLIDUS WITH HORIZONTAL STROKE;BIG SOLIDUS;BIG REVERSE SOLIDUS;DOUBLE PLUS",
    "29fb TRIPLE PLUS;LEFT-POINTING CURVED ANGLE BRACKET;RIGHT-POINTING CURVED ANGLE BRACKET",
    "29fe TINY;MINY;N-ARY CIRCLED DOT OPERATOR;N-ARY CIRCLED PLUS OPERATOR",
    "2a02 N-ARY CIRCLED TIMES OPERATOR;N-ARY UNION OPERATOR WITH DOT",
    "2a04 N-ARY UNION OPERATOR WITH PLUS;N-ARY SQUARE INTERSECTION OPERATOR",
    "2a06 N-ARY SQUARE UNION OPERATOR;TWO LOGICAL AND OPERATOR;TWO LOGICAL OR OPERATOR",
    "2a09 N-ARY TIMES OPERATOR;MODULO TWO SUM;SUMMATION WITH INTEGRAL",
    "2a0c QUADRUPLE INTEGRAL OPERATOR;FINITE PART INTEGRAL;INTEGRAL WITH DOUBLE STROKE",
    "2a0f INTEGRAL AVERAGE WITH SLASH;CIRCULATION FUNCTION;ANTICLOCKWISE INTEGRATION",
    "2a12 LINE INTEGRATION WITH RECTANGULAR PATH AROUND POLE",
    "2a13 LINE INTEGRATION WITH SEMICIRCULAR PATH AROUND POLE",
    "2a14 LINE INTEGRATION NOT INCLUDING THE POLE;INTEGRAL AROUND A POINT OPERATOR",
    "2a16 QUATERNION INTEGRAL OPERATOR;INTEGRAL WITH LEFTWARDS ARROW WITH HOOK",
    "2a18 INTEGRAL WITH TIMES SIGN;INTEGRAL WITH INTERSECTION;INTEGRAL WITH UNION",
    "2a1b INTEGRAL WITH OVERBAR;INTEGRAL WITH UNDERBAR;JOIN;LARGE LEFT TRIANGLE OPERATOR",
    "2a1f Z NOTATION SCHEMA COMPOSITION;Z NOTATION SCHEMA PIPING;Z NOTATION SCHEMA PROJECTION",
    "2a22 PLUS SIGN WITH SMALL CIRCLE ABOVE;PLUS SIGN WITH CIRCUMFLEX ACCENT ABOVE",
    "2a24 PLUS SIGN WITH TILDE ABOVE;PLUS SIGN WITH DOT BELOW;PLUS SIGN WITH TILDE BELOW",
    "2a27 PLUS SIGN WITH SUBSCRIPT TWO;PLUS SIGN WITH BLACK TRIANGLE",
    "2a29 MINUS SIGN WITH COMMA ABOVE;MINUS SIGN WITH DOT BELOW;MINUS SIGN WITH FALLING DOTS",
    "2a2c MINUS SIGN WITH RISING DOTS;PLUS SIGN IN LEFT HALF CIRCLE",
    "2a2e PLUS SIGN IN RIGHT HALF CIRCLE;VECTOR OR CROSS PRODUCT",
    "2a30 MULTIPLICATION SIGN WITH DOT ABOVE;MULTIPLICATION SIGN WITH UNDERBAR",
    "2a32 SEMIDIRECT PRODUCT WITH BOTTOM CLOSED;SMASH PRODUCT",
    "2a34 MULTIPLICATION SIGN IN LEFT HALF CIRCLE;MULTIPLICATION SIGN IN RIGHT HALF CIRCLE",
    "2a36 CIRCLED MULTIPLICATION SIGN WITH CIRCUMFLEX ACCENT",
    "2a37 MULTIPLICATION SIGN IN DOUBLE CIRCLE;CIRCLED DIVISION SIGN;PLUS SIGN IN TRIANGLE",
    "2a3a MINUS SIGN IN TRIANGLE;MULTIPLICATION SIGN IN TRIANGLE;INTERIOR PRODUCT",
    "2a3d RIGHTHAND INTERIOR PRODUCT;Z NOTATION RELATIONAL COMPOSITION",
    "2a3f AMALGAMATION OR COPRODUCT;INTERSECTION WITH DOT;UNION WITH MINUS SIGN",
    "2a42 UNION WITH OVERBAR;INTERSECTION WITH OVERBAR;INTERSECTION WITH LOGICAL AND",
    "2a45 UNION WITH LOGICAL OR;UNION ABOVE INTERSECTION;INTERSECTION ABOVE UNION",
    "2a48 UNION ABOVE BAR ABOVE INTERSECTION;INTERSECTION ABOVE BAR ABOVE UNION",
    "2a4a UNION BESIDE AND JOINED WITH UNION;INTERSECTION BESIDE AND JOINED WITH INTERSECTION",
    "2a4c CLOSED UNION WITH SERIFS;CLOSED INTERSECTION WITH SERIFS;DOUBLE SQUARE INTERSECTION",
    "2a4f DOUBLE SQUARE UNION;CLOSED UNION WITH SERIFS AND SMASH PRODUCT",
    "2a51 LOGICAL AND WITH DOT ABOVE;LOGICAL OR WITH DOT ABOVE;DOUBLE LOGICAL AND",
    "2a54 DOUBLE LOGICAL OR;TWO INTERSECTING LOGICAL AND;TWO INTERSECTING LOGICAL OR",
    "2a57 SLOPING LARGE OR;SLOPING LARGE AND;LOGICAL OR OVERLAPPING LOGICAL AND",
    "2a5a LOGICAL AND WITH MIDDLE STEM;LOGICAL OR WITH MIDDLE STEM",
    "2a5c LOGICAL AND WITH HORIZONTAL DASH;LOGICAL OR WITH HORIZONTAL DASH",
    "2a5e LOGICAL AND WITH DOUBLE OVERBAR;LOGICAL AND WITH UNDERBAR",
    "2a60 LOGICAL AND WITH DOUBLE UNDERBAR;SMALL VEE WITH UNDERBAR",
    "2a62 LOGICAL OR WITH DOUBLE OVERBAR;LOGICAL OR WITH DOUBLE UNDERBAR",
    "2a64 Z NOTATION DOMAIN ANTIRESTRICTION;Z NOTATION RANGE ANTIRESTRICTION",
    "2a66 EQUALS SIGN WITH DOT BELOW;IDENTICAL WITH DOT ABOVE",
    "2a68 TRIPLE HORIZONTAL BAR WITH DOUBLE VERTICAL STROKE",
    "2a69 TRIPLE HORIZONTAL BAR WITH TRIPLE VERTICAL STROKE;TILDE OPERATOR WITH DOT ABOVE",
    "2a6b TILDE OPERATOR WITH RISING DOTS;SIMILAR MINUS SIMILAR;CONGRUENT WITH DOT ABOVE",
    "2a6e EQUALS WITH ASTERISK;ALMOST EQUAL TO WITH CIRCUMFLEX ACCENT",
    "2a70 APPROXIMATELY EQUAL OR EQUAL TO;EQUALS SIGN ABOVE PLUS SIGN",
    "2a72 PLUS SIGN ABOVE EQUALS SIGN;EQUALS SIGN ABOVE TILDE OPERATOR;DOUBLE COLON EQUAL",
    "2a75 TWO CONSECUTIVE EQUALS SIGNS;THREE CONSECUTIVE EQUALS SIGNS",
    "2a77 EQUALS SIGN WITH TWO DOTS ABOVE AND TWO DOTS BELOW;EQUIVALENT WITH FOUR DOTS ABOVE",
    "2a79 LESS-THAN WITH CIRCLE INSIDE;GREATER-THAN WITH CIRCLE INSIDE",
    "2a7b LESS-THAN WITH QUESTION MARK ABOVE;GREATER-THAN WITH QUESTION MARK ABOVE",
    "2a7d LESS-THAN OR SLANTED EQUAL TO;GREATER-THAN OR SLANTED EQUAL TO",
    "2a7f LESS-THAN OR SLANTED EQUAL TO WITH DOT INSIDE",
    "2a80 GREATER-THAN OR SLANTED EQUAL TO WITH DOT INSIDE",
    "2a81 LESS-THAN OR SLANTED EQUAL TO WITH DOT ABOVE",
    "2a82 GREATER-THAN OR SLANTED EQUAL TO WITH DOT ABOVE",
    "2a83 LESS-THAN OR SLANTED EQUAL TO WITH DOT ABOVE RIGHT",
    "2a84 GREATER-THAN OR SLANTED EQUAL TO WITH DOT ABOVE LEFT;LESS-THAN OR APPROXIMATE",
    "2a86 GREATER-THAN OR APPROXIMATE;LESS-THAN AND SINGLE-LINE NOT EQUAL TO",
    "2a88 GREATER-THAN AND SINGLE-LINE NOT EQUAL TO;LESS-THAN AND NOT APPROXIMATE",
    "2a8a GREATER-THAN AND NOT APPROXIMATE;LESS-THAN ABOVE DOUBLE-LINE EQUAL ABOVE GREATER-THAN",
    "2a8c GREATER-THAN ABOVE DOUBLE-LINE EQUAL ABOVE LESS-THAN;LESS-THAN ABOVE SIMILAR OR EQUAL",
    "2a8e GREATER-THAN ABOVE SIMILAR OR EQUAL;LESS-THAN ABOVE SIMILAR ABOVE GREATER-THAN",
    "2a90 GREATER-THAN ABOVE SIMILAR ABOVE LESS-THAN",
    "2a91 LESS-THAN ABOVE GREATER-THAN ABOVE DOUBLE-LINE EQUAL",
    "2a92 GREATER-THAN ABOVE LESS-THAN ABOVE DOUBLE-LINE EQUAL",
    "2a93 LESS-THAN ABOVE SLANTED EQUAL ABOVE GREATER-THAN ABOVE SLANTED EQUAL",
    "2a94 GREATER-THAN ABOVE SLANTED EQUAL ABOVE LESS-THAN ABOVE SLANTED EQUAL",
    "2a95 SLANTED EQUAL TO OR LESS-THAN;SLANTED EQUAL TO OR GREATER-THAN",
    "2a97 SLANTED EQUAL TO OR LESS-THAN WITH DOT INSIDE",
    "2a98 SLANTED EQUAL TO OR GREATER-THAN WITH DOT INSIDE;DOUBLE-LINE EQUAL TO OR LESS-THAN",
    "2a9a DOUBLE-LINE EQUAL TO OR GREATER-THAN;DOUBLE-LINE SLANTED EQUAL TO OR LESS-THAN",
    "2a9c DOUBLE-LINE SLANTED EQUAL TO OR GREATER-THAN;SIMILAR OR LESS-THAN"]

/-- The names from U+2A9E to U+3252. -/
def symbolNamesE : List String :=
  ["2a9e SIMILAR OR GREATER-THAN;SIMILAR ABOVE LESS-THAN ABOVE EQUALS SIGN",
    "2aa0 SIMILAR ABOVE GREATER-THAN ABOVE EQUALS SIGN;DOUBLE NESTED LESS-THAN",
    "2aa2 DOUBLE NESTED GREATER-THAN;DOUBLE NESTED LESS-THAN WITH UNDERBAR",
    "2aa4 GREATER-THAN OVERLAPPING LESS-THAN;GREATER-THAN BESIDE LESS-THAN",
    "2aa6 LESS-THAN CLOSED BY CURVE;GREATER-THAN CLOSED BY CURVE",
    "2aa8 LESS-THAN CLOSED BY CURVE ABOVE SLANTED EQUAL",
    "2aa9 GREATER-THAN CLOSED BY CURVE ABOVE SLANTED EQUAL;SMALLER THAN;LARGER THAN",
    "2aac SMALLER THAN OR EQUAL TO;LARGER THAN OR EQUAL TO;EQUALS SIGN WITH BUMPY ABOVE",
    "2aaf PRECEDES ABOVE SINGLE-LINE EQUALS SIGN;SUCCEEDS ABOVE SINGLE-LINE EQUALS SIGN",
    "2ab1 PRECEDES ABOVE SINGLE-LINE NOT EQUAL TO;SUCCEEDS ABOVE SINGLE-LINE NOT EQUAL TO",
    "2ab3 PRECEDES ABOVE EQUALS SIGN;SUCCEEDS ABOVE EQUALS SIGN;PRECEDES ABOVE NOT EQUAL TO",
    "2ab6 SUCCEEDS ABOVE NOT EQUAL TO;PRECEDES ABOVE ALMOST EQUAL TO",
    "2ab8 SUCCEEDS ABOVE ALMOST EQUAL TO;PRECEDES ABOVE NOT ALMOST EQUAL TO",
    "2aba SUCCEEDS ABOVE NOT ALMOST EQUAL TO;DOUBLE PRECEDES;DOUBLE SUCCEEDS;SUBSET WITH DOT",
    "2abe SUPERSET WITH DOT;SUBSET WITH PLUS SIGN BELOW;SUPERSET WITH PLUS SIGN BELOW",
    "2ac1 SUBSET WITH MULTIPLICATION SIGN BELOW;SUPERSET WITH MULTIPLICATION SIGN BELOW",
    "2ac3 SUBSET OF OR EQUAL TO WITH DOT ABOVE;SUPERSET OF OR EQUAL TO WITH DOT ABOVE",
    "2ac5 SUBSET OF ABOVE EQUALS SIGN;SUPERSET OF ABOVE EQUALS SIGN",
    "2ac7 SUBSET OF ABOVE TILDE OPERATOR;SUPERSET OF ABOVE TILDE OPERATOR",
    "2ac9 SUBSET OF ABOVE ALMOST EQUAL TO;SUPERSET OF ABOVE ALMOST EQUAL TO",
    "2acb SUBSET OF ABOVE NOT EQUAL TO;SUPERSET OF ABOVE NOT EQUAL TO",
    "2acd SQUARE LEFT OPEN BOX OPERATOR;SQUARE RIGHT OPEN BOX OPERATOR;CLOSED SUBSET",
    "2ad0 CLOSED SUPERSET;CLOSED SUBSET OR EQUAL TO;CLOSED SUPERSET OR EQUAL TO",
    "2ad3 SUBSET ABOVE SUPERSET;SUPERSET ABOVE SUBSET;SUBSET ABOVE SUBSET",
    "2ad6 SUPERSET ABOVE SUPERSET;SUPERSET BESIDE SUBSET",
    "2ad8 SUPERSET BESIDE AND JOINED BY DASH WITH SUBSET;ELEMENT OF OPENING DOWNWARDS",
    "2ada PITCHFORK WITH TEE TOP;TRANSVERSAL INTERSECTION;FORKING;NONFORKING;SHORT LEFT TACK",
    "2adf SHORT DOWN TACK;SHORT UP TACK;PERPENDICULAR WITH S",
    "2ae2 VERTICAL BAR TRIPLE RIGHT TURNSTILE;DOUBLE VERTICAL BAR LEFT TURNSTILE",
    "2ae4 VERTICAL BAR DOUBLE LEFT TURNSTILE;DOUBLE VERTICAL BAR DOUBLE LEFT TURNSTILE",
    "2ae6 LONG DASH FROM LEFT MEMBER OF DOUBLE VERTICAL;SHORT DOWN TACK WITH OVERBAR",
    "2ae8 SHORT UP TACK WITH UNDERBAR;SHORT UP TACK ABOVE SHORT DOWN TACK;DOUBLE DOWN TACK",
    "2aeb DOUBLE UP TACK;DOUBLE STROKE NOT SIGN;REVERSED DOUBLE STROKE NOT SIGN",
    "2aee DOES NOT DIVIDE WITH REVERSED NEGATION SLASH;VERTICAL LINE WITH CIRCLE ABOVE",
    "2af0 VERTICAL LINE WITH CIRCLE BELOW;DOWN TACK WITH CIRCLE BELOW",
    "2af2 PARALLEL WITH HORIZONTAL STROKE;PARALLEL WITH TILDE OPERATOR",
    "2af4 TRIPLE VERTICAL BAR BINARY RELATION;TRIPLE VERTICAL BAR WITH HORIZONTAL STROKE",
    "2af6 TRIPLE COLON OPERATOR;TRIPLE NESTED LESS-THAN;TRIPLE NESTED GREATER-THAN",
    "2af9 DOUBLE-LINE SLANTED LESS-THAN OR EQUAL TO",
    "2afa DOUBLE-LINE SLANTED GREATER-THAN OR EQUAL TO;TRIPLE SOLIDUS BINARY RELATION",
    "2afc LARGE TRIPLE VERTICAL BAR OPERATOR;DOUBLE SOLIDUS OPERATOR;WHITE VERTICAL BAR",
    "2aff N-ARY WHITE VERTICAL BAR;NORTH EAST WHITE ARROW;NORTH WEST WHITE ARROW",
    "2b02 SOUTH EAST WHITE ARROW;SOUTH WEST WHITE ARROW;LEFT RIGHT WHITE ARROW",
    "2b05 LEFTWARDS BLACK ARROW;UPWARDS BLACK ARROW;DOWNWARDS BLACK ARROW",
    "2b08 NORTH EAST BLACK ARROW;NORTH WEST BLACK ARROW;SOUTH EAST BLACK ARROW",
    "2b0b SOUTH WEST BLACK ARROW;LEFT RIGHT BLACK ARROW;UP DOWN BLACK ARROW",
    "2b0e RIGHTWARDS ARROW WITH TIP DOWNWARDS;RIGHTWARDS ARROW WITH TIP UPWARDS",
    "2b10 LEFTWARDS ARROW WITH TIP DOWNWARDS;LEFTWARDS ARROW WITH TIP UPWARDS",
    "2b12 SQUARE WITH TOP HALF BLACK;SQUARE WITH BOTTOM HALF BLACK",
    "2b14 SQUARE WITH UPPER RIGHT DIAGONAL HALF BLACK",
    "2b15 SQUARE WITH LOWER LEFT DIAGONAL HALF BLACK;DIAMOND WITH LEFT HALF BLACK",
    "2b17 DIAMOND WITH RIGHT HALF BLACK;DIAMOND WITH TOP HALF BLACK",
    "2b19 DIAMOND WITH BOTTOM HALF BLACK;DOTTED SQUARE;BLACK LARGE SQUARE;WHITE LARGE SQUARE",
    "2b1d BLACK VERY SMALL SQUARE;WHITE VERY SMALL SQUARE;BLACK PENTAGON;WHITE PENTAGON",
    "2b21 WHITE HEXAGON;BLACK HEXAGON;HORIZONTAL BLACK HEXAGON;BLACK LARGE CIRCLE",
    "2b25 BLACK MEDIUM DIAMOND;WHITE MEDIUM DIAMOND;BLACK MEDIUM LOZENGE;WHITE MEDIUM LOZENGE",
    "2b29 BLACK SMALL DIAMOND;BLACK SMALL LOZENGE;WHITE SMALL LOZENGE;BLACK HORIZONTAL ELLIPSE",
    "2b2d WHITE HORIZONTAL ELLIPSE;BLACK VERTICAL ELLIPSE;WHITE VERTICAL ELLIPSE",
    "2b30 LEFT ARROW WITH SMALL CIRCLE;THREE LEFTWARDS ARROWS;LEFT ARROW WITH CIRCLED PLUS",
    "2b33 LONG LEFTWARDS SQUIGGLE ARROW;LEFTWARDS TWO-HEADED ARROW WITH VERTICAL STROKE",
    "2b35 LEFTWARDS TWO-HEADED ARROW WITH DOUBLE VERTICAL STROKE",
    "2b36 LEFTWARDS TWO-HEADED ARROW FROM BAR;LEFTWARDS TWO-HEADED TRIPLE DASH ARROW",
    "2b38 LEFTWARDS ARROW WITH DOTTED STEM;LEFTWARDS ARROW WITH TAIL WITH VERTICAL STROKE",
    "2b3a LEFTWARDS ARROW WITH TAIL WITH DOUBLE VERTICAL STROKE",
    "2b3b LEFTWARDS TWO-HEADED ARROW WITH TAIL",
    "2b3c LEFTWARDS TWO-HEADED ARROW WITH TAIL WITH VERTICAL STROKE",
    "2b3d LEFTWARDS TWO-HEADED ARROW WITH TAIL WITH DOUBLE VERTICAL STROKE",
    "2b3e LEFTWARDS ARROW THROUGH X;WAVE ARROW POINTING DIRECTLY LEFT",
    "2b40 EQUALS SIGN ABOVE LEFTWARDS ARROW;REVERSE TILDE OPERATOR ABOVE LEFTWARDS ARROW",
    "2b42 LEFTWARDS ARROW ABOVE REVERSE ALMOST EQUAL TO;RIGHTWARDS ARROW THROUGH GREATER-THAN",
    "2b44 RIGHTWARDS ARROW THROUGH SUPERSET;LEFTWARDS QUADRUPLE ARROW",
    "2b46 RIGHTWARDS QUADRUPLE ARROW;REVERSE TILDE OPERATOR ABOVE RIGHTWARDS ARROW",
    "2b48 RIGHTWARDS ARROW ABOVE REVERSE ALMOST EQUAL TO;TILDE OPERATOR ABOVE LEFTWARDS ARROW",
    "2b4a LEFTWARDS ARROW ABOVE ALMOST EQUAL TO;LEFTWARDS ARROW ABOVE REVERSE TILDE OPERATOR",
    "2b4c RIGHTWARDS ARROW ABOVE REVERSE TILDE OPERATOR;DOWNWARDS TRIANGLE-HEADED ZIGZAG ARROW",
    "2b4e SHORT SLANTED NORTH ARROW;SHORT BACKSLANTED SOUTH ARROW;WHITE MEDIUM STAR",
    "2b51 BLACK SMALL STAR;WHITE SMALL STAR;BLACK RIGHT-POINTING PENTAGON",
    "2b54 WHITE RIGHT-POINTING PENTAGON;HEAVY LARGE CIRCLE;HEAVY OVAL WITH OVAL INSIDE",
    "2b57 HEAVY CIRCLE WITH CIRCLE INSIDE;HEAVY CIRCLE;HEAVY CIRCLED SALTIRE",
    "2b5a SLANTED NORTH ARROW WITH HOOKED HEAD;BACKSLANTED SOUTH ARROW WITH HOOKED TAIL",
    "2b5c SLANTED NORTH ARROW WITH HORIZONTAL TAIL;BACKSLANTED SOUTH ARROW WITH HORIZONTAL TAIL",
    "2b5e BENT ARROW POINTING DOWNWARDS THEN NORTH EAST",
    "2b5f SHORT BENT ARROW POINTING DOWNWARDS THEN NORTH EAST;LEFTWARDS TRIANGLE-HEADED ARROW",
    "2b61 UPWARDS TRIANGLE-HEADED ARROW;RIGHTWARDS TRIANGLE-HEADED ARROW",
    "2b63 DOWNWARDS TRIANGLE-HEADED ARROW;LEFT RIGHT TRIANGLE-HEADED ARROW",
    "2b65 UP DOWN TRIANGLE-HEADED ARROW;NORTH WEST TRIANGLE-HEADED ARROW",
    "2b67 NORTH EAST TRIANGLE-HEADED ARROW;SOUTH EAST TRIANGLE-HEADED ARROW",
    "2b69 SOUTH WEST TRIANGLE-HEADED ARROW;LEFTWARDS TRIANGLE-HEADED DASHED ARROW",
    "2b6b UPWARDS TRIANGLE-HEADED DASHED ARROW;RIGHTWARDS TRIANGLE-HEADED DASHED ARROW",
    "2b6d DOWNWARDS TRIANGLE-HEADED DASHED ARROW;CLOCKWISE TRIANGLE-HEADED OPEN CIRCLE ARROW",
    "2b6f ANTICLOCKWISE TRIANGLE-HEADED OPEN CIRCLE ARROW",
    "2b70 LEFTWARDS TRIANGLE-HEADED ARROW TO BAR;UPWARDS TRIANGLE-HEADED ARROW TO BAR",
    "2b72 RIGHTWARDS TRIANGLE-HEADED ARROW TO BAR;DOWNWARDS TRIANGLE-HEADED ARROW TO BAR",
    "2b76 NORTH WEST TRIANGLE-HEADED ARROW TO BAR;NORTH EAST TRIANGLE-HEADED ARROW TO BAR",
    "2b78 SOUTH EAST TRIANGLE-HEADED ARROW TO BAR;SOUTH WEST TRIANGLE-HEADED ARROW TO BAR",
    "2b7a LEFTWARDS TRIANGLE-HEADED ARROW WITH DOUBLE HORIZONTAL STROKE",
    "2b7b UPWARDS TRIANGLE-HEADED ARROW WITH DOUBLE HORIZONTAL STROKE",
    "2b7c RIGHTWARDS TRIANGLE-HEADED ARROW WITH DOUBLE HORIZONTAL STROKE",
    "2b7d DOWNWARDS TRIANGLE-HEADED ARROW WITH DOUBLE HORIZONTAL STROKE;HORIZONTAL TAB KEY",
    "2b7f VERTICAL TAB KEY",
    "2b80 LEFTWARDS TRIANGLE-HEADED ARROW OVER RIGHTWARDS TRIANGLE-HEADED ARROW",
    "2b81 UPWARDS TRIANGLE-HEADED ARROW LEFTWARDS OF DOWNWARDS TRIANGLE-HEADED ARROW",
    "2b82 RIGHTWARDS TRIANGLE-HEADED ARROW OVER LEFTWARDS TRIANGLE-HEADED ARROW",
    "2b83 DOWNWARDS TRIANGLE-HEADED ARROW LEFTWARDS OF UPWARDS TRIANGLE-HEADED ARROW",
    "2b84 LEFTWARDS TRIANGLE-HEADED PAIRED ARROWS;UPWARDS TRIANGLE-HEADED PAIRED ARROWS",
    "2b86 RIGHTWARDS TRIANGLE-HEADED PAIRED ARROWS;DOWNWARDS TRIANGLE-HEADED PAIRED ARROWS",
    "2b88 LEFTWARDS BLACK CIRCLED WHITE ARROW;UPWARDS BLACK CIRCLED WHITE ARROW",
    "2b8a RIGHTWARDS BLACK CIRCLED WHITE ARROW;DOWNWARDS BLACK CIRCLED WHITE ARROW",
    "2b8c ANTICLOCKWISE TRIANGLE-HEADED RIGHT U-SHAPED ARROW",
    "2b8d ANTICLOCKWISE TRIANGLE-HEADED BOTTOM U-SHAPED ARROW",
    "2b8e ANTICLOCKWISE TRIANGLE-HEADED LEFT U-SHAPED ARROW",
    "2b8f ANTICLOCKWISE TRIANGLE-HEADED TOP U-SHAPED ARROW;RETURN LEFT;RETURN RIGHT",
    "2b92 NEWLINE LEFT;NEWLINE RIGHT;FOUR CORNER ARROWS CIRCLING ANTICLOCKWISE",
    "2b95 RIGHTWARDS BLACK ARROW",
    "2b97 SYMBOL FOR TYPE A ELECTRONICS;THREE-D TOP-LIGHTED LEFTWARDS EQUILATERAL ARROWHEAD",
    "2b99 THREE-D RIGHT-LIGHTED UPWARDS EQUILATERAL ARROWHEAD",
    "2b9a THREE-D TOP-LIGHTED RIGHTWARDS EQUILATERAL ARROWHEAD",
    "2b9b THREE-D LEFT-LIGHTED DOWNWARDS EQUILATERAL ARROWHEAD",
    "2b9c BLACK LEFTWARDS EQUILATERAL ARROWHEAD;BLACK UPWARDS EQUILATERAL ARROWHEAD",
    "2b9e BLACK RIGHTWARDS EQUILATERAL ARROWHEAD;BLACK DOWNWARDS EQUILATERAL ARROWHEAD",
    "2ba0 DOWNWARDS TRIANGLE-HEADED ARROW WITH LONG TIP LEFTWARDS",
    "2ba1 DOWNWARDS TRIANGLE-HEADED ARROW WITH LONG TIP RIGHTWARDS",
    "2ba2 UPWARDS TRIANGLE-HEADED ARROW WITH LONG TIP LEFTWARDS",
    "2ba3 UPWARDS TRIANGLE-HEADED ARROW WITH LONG TIP RIGHTWARDS",
    "2ba4 LEFTWARDS TRIANGLE-HEADED ARROW WITH LONG TIP UPWARDS",
    "2ba5 RIGHTWARDS TRIANGLE-HEADED ARROW WITH LONG TIP UPWARDS",
    "2ba6 LEFTWARDS TRIANGLE-HEADED ARROW WITH LONG TIP DOWNWARDS",
    "2ba7 RIGHTWARDS TRIANGLE-HEADED ARROW WITH LONG TIP DOWNWARDS",
    "2ba8 BLACK CURVED DOWNWARDS AND LEFTWARDS ARROW",
    "2ba9 BLACK CURVED DOWNWARDS AND RIGHTWARDS ARROW;BLACK CURVED UPWARDS AND LEFTWARDS ARROW",
    "2bab BLACK CURVED UPWARDS AND RIGHTWARDS ARROW;BLACK CURVED LEFTWARDS AND UPWARDS ARROW",
    "2bad BLACK CURVED RIGHTWARDS AND UPWARDS ARROW;BLACK CURVED LEFTWARDS AND DOWNWARDS ARROW",
    "2baf BLACK CURVED RIGHTWARDS AND DOWNWARDS ARROW;RIBBON ARROW DOWN LEFT",
    "2bb1 RIBBON ARROW DOWN RIGHT;RIBBON ARROW UP LEFT;RIBBON ARROW UP RIGHT",
    "2bb4 RIBBON ARROW LEFT UP;RIBBON ARROW RIGHT UP;RIBBON ARROW LEFT DOWN",
    "2bb7 RIBBON ARROW RIGHT DOWN;UPWARDS WHITE ARROW FROM BAR WITH HORIZONTAL BAR",
    "2bb9 UP ARROWHEAD IN A RECTANGLE BOX;OVERLAPPING WHITE SQUARES",
    "2bbb OVERLAPPING WHITE AND BLACK SQUARES;OVERLAPPING BLACK SQUARES;BALLOT BOX WITH LIGHT X",
    "2bbe CIRCLED X;CIRCLED BOLD X;BLACK SQUARE CENTRED;BLACK DIAMOND CENTRED",
    "2bc2 TURNED BLACK PENTAGON;HORIZONTAL BLACK OCTAGON;BLACK OCTAGON",
    "2bc5 BLACK MEDIUM UP-POINTING TRIANGLE CENTRED;BLACK MEDIUM DOWN-POINTING TRIANGLE CENTRED",
    "2bc7 BLACK MEDIUM LEFT-POINTING TRIANGLE CENTRED",
    "2bc8 BLACK MEDIUM RIGHT-POINTING TRIANGLE CENTRED;NEPTUNE FORM TWO;TOP HALF BLACK CIRCLE",
    "2bcb BOTTOM HALF BLACK CIRCLE;LIGHT FOUR POINTED BLACK CUSP",
    "2bcd ROTATED LIGHT FOUR POINTED BLACK CUSP;WHITE FOUR POINTED CUSP",
    "2bcf ROTATED WHITE FOUR POINTED CUSP;SQUARE POSITION INDICATOR;UNCERTAINTY SIGN;GROUP MARK",
    "2bd3 PLUTO FORM TWO;PLUTO FORM THREE;PLUTO FORM FOUR;PLUTO FORM FIVE;TRANSPLUTO;PROSERPINA",
    "2bd9 ASTRAEA;HYGIEA;PHOLUS;NESSUS;WHITE MOON SELENA;BLACK DIAMOND ON CROSS",
    "2bdf TRUE LIGHT MOON ARTA;CUPIDO;HADES;ZEUS;KRONOS;APOLLON;ADMETOS;VULCANUS;POSEIDON",
    "2be8 LEFT HALF BLACK STAR;RIGHT HALF BLACK STAR;STAR WITH LEFT HALF BLACK",
    "2beb STAR WITH RIGHT HALF BLACK;LEFTWARDS TWO-HEADED ARROW WITH TRIANGLE ARROWHEADS",
    "2bed UPWARDS TWO-HEADED ARROW WITH TRIANGLE ARROWHEADS",
    "2bee RIGHTWARDS TWO-HEADED ARROW WITH TRIANGLE ARROWHEADS",
    "2bef DOWNWARDS TWO-HEADED ARROW WITH TRIANGLE ARROWHEADS;ERIS FORM ONE;ERIS FORM TWO;SEDNA",
    "2bf3 RUSSIAN ASTROLOGICAL SYMBOL VIGINTILE;RUSSIAN ASTROLOGICAL SYMBOL NOVILE",
    "2bf5 RUSSIAN ASTROLOGICAL SYMBOL QUINTILE;RUSSIAN ASTROLOGICAL SYMBOL BINOVILE",
    "2bf7 RUSSIAN ASTROLOGICAL SYMBOL SENTAGON;RUSSIAN ASTROLOGICAL SYMBOL TREDECILE",
    "2bf9 EQUALS SIGN WITH INFINITY BELOW;UNITED SYMBOL;SEPARATED SYMBOL;DOUBLED SYMBOL",
    "2bfd PASSED SYMBOL;REVERSED RIGHT ANGLE;HELLSCHREIBER PAUSE SYMBOL",
    "2e00 RIGHT ANGLE SUBSTITUTION MARKER;RIGHT ANGLE DOTTED SUBSTITUTION MARKER",
    "2e02 LEFT SUBSTITUTION BRACKET;RIGHT SUBSTITUTION BRACKET;LEFT DOTTED SUBSTITUTION BRACKET",
    "2e05 RIGHT DOTTED SUBSTITUTION BRACKET;RAISED INTERPOLATION MARKER",
    "2e07 RAISED DOTTED INTERPOLATION MARKER;DOTTED TRANSPOSITION MARKER",
    "2e09 LEFT TRANSPOSITION BRACKET;RIGHT TRANSPOSITION BRACKET;RAISED SQUARE",
    "2e0c LEFT RAISED OMISSION BRACKET;RIGHT RAISED OMISSION BRACKET;EDITORIAL CORONIS",
    "2e0f PARAGRAPHOS;FORKED PARAGRAPHOS;REVERSED FORKED PARAGRAPHOS;HYPODIASTOLE;DOTTED OBELOS",
    "2e14 DOWNWARDS ANCORA;UPWARDS ANCORA;DOTTED RIGHT-POINTING ANGLE;DOUBLE OBLIQUE HYPHEN",
    "2e18 INVERTED INTERROBANG;PALM BRANCH;HYPHEN WITH DIAERESIS;TILDE WITH RING ABOVE",
    "2e1c LEFT LOW PARAPHRASE BRACKET;RIGHT LOW PARAPHRASE BRACKET;TILDE WITH DOT ABOVE",
    "2e1f TILDE WITH DOT BELOW;LEFT VERTICAL BAR WITH QUILL;RIGHT VERTICAL BAR WITH QUILL",
    "2e22 TOP LEFT HALF BRACKET;TOP RIGHT HALF BRACKET;BOTTOM LEFT HALF BRACKET",
    "2e25 BOTTOM RIGHT HALF BRACKET;LEFT SIDEWAYS U BRACKET;RIGHT SIDEWAYS U BRACKET",
    "2e28 LEFT DOUBLE PARENTHESIS;RIGHT DOUBLE PARENTHESIS;TWO DOTS OVER ONE DOT PUNCTUATION",
    "2e2b ONE DOT OVER TWO DOTS PUNCTUATION;SQUARED FOUR DOT PUNCTUATION;FIVE DOT MARK",
    "2e2e REVERSED QUESTION MARK;VERTICAL TILDE;RING POINT;WORD SEPARATOR MIDDLE DOT",
    "2e32 TURNED COMMA;RAISED DOT;RAISED COMMA;TURNED SEMICOLON;DAGGER WITH LEFT GUARD",
    "2e37 DAGGER WITH RIGHT GUARD;TURNED DAGGER;TOP HALF SECTION SIGN;TWO-EM DASH;THREE-EM DASH",
    "2e3c STENOGRAPHIC FULL STOP;VERTICAL SIX DOTS;WIGGLY VERTICAL LINE;CAPITULUM;DOUBLE HYPHEN",
    "2e41 REVERSED COMMA;DOUBLE LOW-REVERSED-9 QUOTATION MARK;DASH WITH LEFT UPTURN",
    "2e44 DOUBLE SUSPENSION MARK;INVERTED LOW KAVYKA;INVERTED LOW KAVYKA WITH KAVYKA ABOVE",
    "2e47 LOW KAVYKA;LOW KAVYKA WITH DOT;DOUBLE STACKED COMMA;DOTTED SOLIDUS;TRIPLE DAGGER",
    "2e4c MEDIEVAL COMMA;PARAGRAPHUS MARK;PUNCTUS ELEVATUS MARK;CORNISH VERSE DIVIDER",
    "2e50 CROSS PATTY WITH RIGHT CROSSBAR;CROSS PATTY WITH LEFT CROSSBAR",
    "2e52 TIRONIAN SIGN CAPITAL ET;MEDIEVAL EXCLAMATION MARK;MEDIEVAL QUESTION MARK",
    "2e55 LEFT SQUARE BRACKET WITH STROKE;RIGHT SQUARE BRACKET WITH STROKE",
    "2e57 LEFT SQUARE BRACKET WITH DOUBLE STROKE;RIGHT SQUARE BRACKET WITH DOUBLE STROKE",
    "2e59 TOP HALF LEFT PARENTHESIS;TOP HALF RIGHT PARENTHESIS;BOTTOM HALF LEFT PARENTHESIS",
    "2e5c BOTTOM HALF RIGHT PARENTHESIS;OBLIQUE HYPHEN",
    "3000 IDEOGRAPHIC SPACE;IDEOGRAPHIC COMMA;IDEOGRAPHIC FULL STOP;DITTO MARK",
    "3004 JAPANESE INDUSTRIAL STANDARD SYMBOL;IDEOGRAPHIC ITERATION MARK",
    "3006 IDEOGRAPHIC CLOSING MARK;IDEOGRAPHIC NUMBER ZERO;LEFT ANGLE BRACKET",
    "3009 RIGHT ANGLE BRACKET;LEFT DOUBLE ANGLE BRACKET;RIGHT DOUBLE ANGLE BRACKET",
    "300c LEFT CORNER BRACKET;RIGHT CORNER BRACKET;LEFT WHITE CORNER BRACKET",
    "300f RIGHT WHITE CORNER BRACKET;LEFT BLACK LENTICULAR BRACKET",
    "3011 RIGHT BLACK LENTICULAR BRACKET;POSTAL MARK;GETA MARK;LEFT TORTOISE SHELL BRACKET",
    "3015 RIGHT TORTOISE SHELL BRACKET;LEFT WHITE LENTICULAR BRACKET",
    "3017 RIGHT WHITE LENTICULAR BRACKET;LEFT WHITE TORTOISE SHELL BRACKET",
    "3019 RIGHT WHITE TORTOISE SHELL BRACKET;LEFT WHITE SQUARE BRACKET",
    "301b RIGHT WHITE SQUARE BRACKET;WAVE DASH;REVERSED DOUBLE PRIME QUOTATION MARK",
    "301e DOUBLE PRIME QUOTATION MARK;LOW DOUBLE PRIME QUOTATION MARK;POSTAL MARK FACE",
    "3021 HANGZHOU NUMERAL ONE;HANGZHOU NUMERAL TWO;HANGZHOU NUMERAL THREE",
    "3024 HANGZHOU NUMERAL FOUR;HANGZHOU NUMERAL FIVE;HANGZHOU NUMERAL SIX",
    "3027 HANGZHOU NUMERAL SEVEN;HANGZHOU NUMERAL EIGHT;HANGZHOU NUMERAL NINE",
    "302a IDEOGRAPHIC LEVEL TONE MARK;IDEOGRAPHIC RISING TONE MARK",
    "302c IDEOGRAPHIC DEPARTING TONE MARK;IDEOGRAPHIC ENTERING TONE MARK",
    "302e HANGUL SINGLE DOT TONE MARK;HANGUL DOUBLE DOT TONE MARK;WAVY DASH",
    "3031 VERTICAL KANA REPEAT MARK;VERTICAL KANA REPEAT WITH VOICED SOUND MARK",
    "3033 VERTICAL KANA REPEAT MARK UPPER HALF",
    "3034 VERTICAL KANA REPEAT WITH VOICED SOUND MARK UPPER HALF",
    "3035 VERTICAL KANA REPEAT MARK LOWER HALF;CIRCLED POSTAL MARK",
    "3037 IDEOGRAPHIC TELEGRAPH LINE FEED SEPARATOR SYMBOL;HANGZHOU NUMERAL TEN",
    "3039 HANGZHOU NUMERAL TWENTY;HANGZHOU NUMERAL THIRTY;VERTICAL IDEOGRAPHIC ITERATION MARK",
    "303c MASU MARK;PART ALTERNATION MARK;IDEOGRAPHIC VARIATION INDICATOR",
    "303f IDEOGRAPHIC HALF FILL SPACE",
    "3200 PARENTHESIZED HANGUL KIYEOK;PARENTHESIZED HANGUL NIEUN;PARENTHESIZED HANGUL TIKEUT",
    "3203 PARENTHESIZED HANGUL RIEUL;PARENTHESIZED HANGUL MIEUM;PARENTHESIZED HANGUL PIEUP",
    "3206 PARENTHESIZED HANGUL SIOS;PARENTHESIZED HANGUL IEUNG;PARENTHESIZED HANGUL CIEUC",
    "3209 PARENTHESIZED HANGUL CHIEUCH;PARENTHESIZED HANGUL KHIEUKH",
    "320b PARENTHESIZED HANGUL THIEUTH;PARENTHESIZED HANGUL PHIEUPH;PARENTHESIZED HANGUL HIEUH",
    "320e PARENTHESIZED HANGUL KIYEOK A;PARENTHESIZED HANGUL NIEUN A",
    "3210 PARENTHESIZED HANGUL TIKEUT A;PARENTHESIZED HANGUL RIEUL A",
    "3212 PARENTHESIZED HANGUL MIEUM A;PARENTHESIZED HANGUL PIEUP A;PARENTHESIZED HANGUL SIOS A",
    "3215 PARENTHESIZED HANGUL IEUNG A;PARENTHESIZED HANGUL CIEUC A",
    "3217 PARENTHESIZED HANGUL CHIEUCH A;PARENTHESIZED HANGUL KHIEUKH A",
    "3219 PARENTHESIZED HANGUL THIEUTH A;PARENTHESIZED HANGUL PHIEUPH A",
    "321b PARENTHESIZED HANGUL HIEUH A;PARENTHESIZED HANGUL CIEUC U",
    "321d PARENTHESIZED KOREAN CHARACTER OJEON;PARENTHESIZED KOREAN CHARACTER O HU",
    "3220 PARENTHESIZED IDEOGRAPH ONE;PARENTHESIZED IDEOGRAPH TWO;PARENTHESIZED IDEOGRAPH THREE",
    "3223 PARENTHESIZED IDEOGRAPH FOUR;PARENTHESIZED IDEOGRAPH FIVE;PARENTHESIZED IDEOGRAPH SIX",
    "3226 PARENTHESIZED IDEOGRAPH SEVEN;PARENTHESIZED IDEOGRAPH EIGHT",
    "3228 PARENTHESIZED IDEOGRAPH NINE;PARENTHESIZED IDEOGRAPH TEN;PARENTHESIZED IDEOGRAPH MOON",
    "322b PARENTHESIZED IDEOGRAPH FIRE;PARENTHESIZED IDEOGRAPH WATER",
    "322d PARENTHESIZED IDEOGRAPH WOOD;PARENTHESIZED IDEOGRAPH METAL",
    "322f PARENTHESIZED IDEOGRAPH EARTH;PARENTHESIZED IDEOGRAPH SUN",
    "3231 PARENTHESIZED IDEOGRAPH STOCK;PARENTHESIZED IDEOGRAPH HAVE",
    "3233 PARENTHESIZED IDEOGRAPH SOCIETY;PARENTHESIZED IDEOGRAPH NAME",
    "3235 PARENTHESIZED IDEOGRAPH SPECIAL;PARENTHESIZED IDEOGRAPH FINANCIAL",
    "3237 PARENTHESIZED IDEOGRAPH CONGRATULATION;PARENTHESIZED IDEOGRAPH LABOR",
    "3239 PARENTHESIZED IDEOGRAPH REPRESENT;PARENTHESIZED IDEOGRAPH CALL",
    "323b PARENTHESIZED IDEOGRAPH STUDY;PARENTHESIZED IDEOGRAPH SUPERVISE",
    "323d PARENTHESIZED IDEOGRAPH ENTERPRISE;PARENTHESIZED IDEOGRAPH RESOURCE",
    "323f PARENTHESIZED IDEOGRAPH ALLIANCE;PARENTHESIZED IDEOGRAPH FESTIVAL",
    "3241 PARENTHESIZED IDEOGRAPH REST;PARENTHESIZED IDEOGRAPH SELF",
    "3243 PARENTHESIZED IDEOGRAPH REACH;CIRCLED IDEOGRAPH QUESTION",
    "3245 CIRCLED IDEOGRAPH KINDERGARTEN;CIRCLED IDEOGRAPH SCHOOL;CIRCLED IDEOGRAPH KOTO",
    "3248 CIRCLED NUMBER TEN ON BLACK SQUARE;CIRCLED NUMBER TWENTY ON BLACK SQUARE",
    "324a CIRCLED NUMBER THIRTY ON BLACK SQUARE;CIRCLED NUMBER FORTY ON BLACK SQUARE",
    "324c CIRCLED NUMBER FIFTY ON BLACK SQUARE;CIRCLED NUMBER SIXTY ON BLACK SQUARE",
    "324e CIRCLED NUMBER SEVENTY ON BLACK SQUARE;CIRCLED NUMBER EIGHTY ON BLACK SQUARE",
    "3250 PARTNERSHIP SIGN;CIRCLED NUMBER TWENTY ONE;CIRCLED NUMBER TWENTY TWO"]

/-- The names from U+3253 to U+FFFD. -/
def symbolNamesF : List String :=
  ["3253 CIRCLED NUMBER TWENTY THREE;CIRCLED NUMBER TWENTY FOUR;CIRCLED NUMBER TWENTY FIVE",
    "3256 CIRCLED NUMBER TWENTY SIX;CIRCLED NUMBER TWENTY SEVEN;CIRCLED NUMBER TWENTY EIGHT",
    "3259 CIRCLED NUMBER TWENTY NINE;CIRCLED NUMBER THIRTY;CIRCLED NUMBER THIRTY ONE",
    "325c CIRCLED NUMBER THIRTY TWO;CIRCLED NUMBER THIRTY THREE;CIRCLED NUMBER THIRTY FOUR",
    "325f CIRCLED NUMBER THIRTY FIVE;CIRCLED HANGUL KIYEOK;CIRCLED HANGUL NIEUN",
    "3262 CIRCLED HANGUL TIKEUT;CIRCLED HANGUL RIEUL;CIRCLED HANGUL MIEUM;CIRCLED HANGUL PIEUP",
    "3266 CIRCLED HANGUL SIOS;CIRCLED HANGUL IEUNG;CIRCLED HANGUL CIEUC;CIRCLED HANGUL CHIEUCH",
    "326a CIRCLED HANGUL KHIEUKH;CIRCLED HANGUL THIEUTH;CIRCLED HANGUL PHIEUPH",
    "326d CIRCLED HANGUL HIEUH;CIRCLED HANGUL KIYEOK A;CIRCLED HANGUL NIEUN A",
    "3270 CIRCLED HANGUL TIKEUT A;CIRCLED HANGUL RIEUL A;CIRCLED HANGUL MIEUM A",
    "3273 CIRCLED HANGUL PIEUP A;CIRCLED HANGUL SIOS A;CIRCLED HANGUL IEUNG A",
    "3276 CIRCLED HANGUL CIEUC A;CIRCLED HANGUL CHIEUCH A;CIRCLED HANGUL KHIEUKH A",
    "3279 CIRCLED HANGUL THIEUTH A;CIRCLED HANGUL PHIEUPH A;CIRCLED HANGUL HIEUH A",
    "327c CIRCLED KOREAN CHARACTER CHAMKO;CIRCLED KOREAN CHARACTER JUEUI;CIRCLED HANGUL IEUNG U",
    "327f KOREAN STANDARD SYMBOL;CIRCLED IDEOGRAPH ONE;CIRCLED IDEOGRAPH TWO",
    "3282 CIRCLED IDEOGRAPH THREE;CIRCLED IDEOGRAPH FOUR;CIRCLED IDEOGRAPH FIVE",
    "3285 CIRCLED IDEOGRAPH SIX;CIRCLED IDEOGRAPH SEVEN;CIRCLED IDEOGRAPH EIGHT",
    "3288 CIRCLED IDEOGRAPH NINE;CIRCLED IDEOGRAPH TEN;CIRCLED IDEOGRAPH MOON",
    "328b CIRCLED IDEOGRAPH FIRE;CIRCLED IDEOGRAPH WATER;CIRCLED IDEOGRAPH WOOD",
    "328e CIRCLED IDEOGRAPH METAL;CIRCLED IDEOGRAPH EARTH;CIRCLED IDEOGRAPH SUN",
    "3291 CIRCLED IDEOGRAPH STOCK;CIRCLED IDEOGRAPH HAVE;CIRCLED IDEOGRAPH SOCIETY",
    "3294 CIRCLED IDEOGRAPH NAME;CIRCLED IDEOGRAPH SPECIAL;CIRCLED IDEOGRAPH FINANCIAL",
    "3297 CIRCLED IDEOGRAPH CONGRATULATION;CIRCLED IDEOGRAPH LABOR;CIRCLED IDEOGRAPH SECRET",
    "329a CIRCLED IDEOGRAPH MALE;CIRCLED IDEOGRAPH FEMALE;CIRCLED IDEOGRAPH SUITABLE",
    "329d CIRCLED IDEOGRAPH EXCELLENT;CIRCLED IDEOGRAPH PRINT;CIRCLED IDEOGRAPH ATTENTION",
    "32a0 CIRCLED IDEOGRAPH ITEM;CIRCLED IDEOGRAPH REST;CIRCLED IDEOGRAPH COPY",
    "32a3 CIRCLED IDEOGRAPH CORRECT;CIRCLED IDEOGRAPH HIGH;CIRCLED IDEOGRAPH CENTRE",
    "32a6 CIRCLED IDEOGRAPH LOW;CIRCLED IDEOGRAPH LEFT;CIRCLED IDEOGRAPH RIGHT",
    "32a9 CIRCLED IDEOGRAPH MEDICINE;CIRCLED IDEOGRAPH RELIGION;CIRCLED IDEOGRAPH STUDY",
    "32ac CIRCLED IDEOGRAPH SUPERVISE;CIRCLED IDEOGRAPH ENTERPRISE;CIRCLED IDEOGRAPH RESOURCE",
    "32af CIRCLED IDEOGRAPH ALLIANCE;CIRCLED IDEOGRAPH NIGHT;CIRCLED NUMBER THIRTY SIX",
    "32b2 CIRCLED NUMBER THIRTY SEVEN;CIRCLED NUMBER THIRTY EIGHT;CIRCLED NUMBER THIRTY NINE",
    "32b5 CIRCLED NUMBER FORTY;CIRCLED NUMBER FORTY ONE;CIRCLED NUMBER FORTY TWO",
    "32b8 CIRCLED NUMBER FORTY THREE;CIRCLED NUMBER FORTY FOUR;CIRCLED NUMBER FORTY FIVE",
    "32bb CIRCLED NUMBER FORTY SIX;CIRCLED NUMBER FORTY SEVEN;CIRCLED NUMBER FORTY EIGHT",
    "32be CIRCLED NUMBER FORTY NINE;CIRCLED NUMBER FIFTY",
    "32c0 IDEOGRAPHIC TELEGRAPH SYMBOL FOR JANUARY;IDEOGRAPHIC TELEGRAPH SYMBOL FOR FEBRUARY",
    "32c2 IDEOGRAPHIC TELEGRAPH SYMBOL FOR MARCH;IDEOGRAPHIC TELEGRAPH SYMBOL FOR APRIL",
    "32c4 IDEOGRAPHIC TELEGRAPH SYMBOL FOR MAY;IDEOGRAPHIC TELEGRAPH SYMBOL FOR JUNE",
    "32c6 IDEOGRAPHIC TELEGRAPH SYMBOL FOR JULY;IDEOGRAPHIC TELEGRAPH SYMBOL FOR AUGUST",
    "32c8 IDEOGRAPHIC TELEGRAPH SYMBOL FOR SEPTEMBER;IDEOGRAPHIC TELEGRAPH SYMBOL FOR OCTOBER",
    "32ca IDEOGRAPHIC TELEGRAPH SYMBOL FOR NOVEMBER;IDEOGRAPHIC TELEGRAPH SYMBOL FOR DECEMBER",
    "32cc SQUARE HG;SQUARE ERG;SQUARE EV;LIMITED LIABILITY SIGN;CIRCLED KATAKANA A",
    "32d1 CIRCLED KATAKANA I;CIRCLED KATAKANA U;CIRCLED KATAKANA E;CIRCLED KATAKANA O",
    "32d5 CIRCLED KATAKANA KA;CIRCLED KATAKANA KI;CIRCLED KATAKANA KU;CIRCLED KATAKANA KE",
    "32d9 CIRCLED KATAKANA KO;CIRCLED KATAKANA SA;CIRCLED KATAKANA SI;CIRCLED KATAKANA SU",
    "32dd CIRCLED KATAKANA SE;CIRCLED KATAKANA SO;CIRCLED KATAKANA TA;CIRCLED KATAKANA TI",
    "32e1 CIRCLED KATAKANA TU;CIRCLED KATAKANA TE;CIRCLED KATAKANA TO;CIRCLED KATAKANA NA",
    "32e5 CIRCLED KATAKANA NI;CIRCLED KATAKANA NU;CIRCLED KATAKANA NE;CIRCLED KATAKANA NO",
    "32e9 CIRCLED KATAKANA HA;CIRCLED KATAKANA HI;CIRCLED KATAKANA HU;CIRCLED KATAKANA HE",
    "32ed CIRCLED KATAKANA HO;CIRCLED KATAKANA MA;CIRCLED KATAKANA MI;CIRCLED KATAKANA MU",
    "32f1 CIRCLED KATAKANA ME;CIRCLED KATAKANA MO;CIRCLED KATAKANA YA;CIRCLED KATAKANA YU",
    "32f5 CIRCLED KATAKANA YO;CIRCLED KATAKANA RA;CIRCLED KATAKANA RI;CIRCLED KATAKANA RU",
    "32f9 CIRCLED KATAKANA RE;CIRCLED KATAKANA RO;CIRCLED KATAKANA WA;CIRCLED KATAKANA WI",
    "32fd CIRCLED KATAKANA WE;CIRCLED KATAKANA WO;SQUARE ERA NAME REIWA",
    "fe00 VARIATION SELECTOR-1;VARIATION SELECTOR-2;VARIATION SELECTOR-3;VARIATION SELECTOR-4",
    "fe04 VARIATION SELECTOR-5;VARIATION SELECTOR-6;VARIATION SELECTOR-7;VARIATION SELECTOR-8",
    "fe08 VARIATION SELECTOR-9;VARIATION SELECTOR-10;VARIATION SELECTOR-11",
    "fe0b VARIATION SELECTOR-12;VARIATION SELECTOR-13;VARIATION SELECTOR-14",
    "fe0e VARIATION SELECTOR-15;VARIATION SELECTOR-16;PRESENTATION FORM FOR VERTICAL COMMA",
    "fe11 PRESENTATION FORM FOR VERTICAL IDEOGRAPHIC COMMA",
    "fe12 PRESENTATION FORM FOR VERTICAL IDEOGRAPHIC FULL STOP",
    "fe13 PRESENTATION FORM FOR VERTICAL COLON;PRESENTATION FORM FOR VERTICAL SEMICOLON",
    "fe15 PRESENTATION FORM FOR VERTICAL EXCLAMATION MARK",
    "fe16 PRESENTATION FORM FOR VERTICAL QUESTION MARK",
    "fe17 PRESENTATION FORM FOR VERTICAL LEFT WHITE LENTICULAR BRACKET",
    "fe18 PRESENTATION FORM FOR VERTICAL RIGHT WHITE LENTICULAR BRAKCET",
    "fe19 PRESENTATION FORM FOR VERTICAL HORIZONTAL ELLIPSIS",
    "fe20 COMBINING LIGATURE LEFT HALF;COMBINING LIGATURE RIGHT HALF",
    "fe22 COMBINING DOUBLE TILDE LEFT HALF;COMBINING DOUBLE TILDE RIGHT HALF",
    "fe24 COMBINING MACRON LEFT HALF;COMBINING MACRON RIGHT HALF;COMBINING CONJOINING MACRON",
    "fe27 COMBINING LIGATURE LEFT HALF BELOW;COMBINING LIGATURE RIGHT HALF BELOW",
    "fe29 COMBINING TILDE LEFT HALF BELOW;COMBINING TILDE RIGHT HALF BELOW",
    "fe2b COMBINING MACRON LEFT HALF BELOW;COMBINING MACRON RIGHT HALF BELOW",
    "fe2d COMBINING CONJOINING MACRON BELOW;COMBINING CYRILLIC TITLO LEFT HALF",
    "fe2f COMBINING CYRILLIC TITLO RIGHT HALF;PRESENTATION FORM FOR VERTICAL TWO DOT LEADER",
    "fe31 PRESENTATION FORM FOR VERTICAL EM DASH;PRESENTATION FORM FOR VERTICAL EN DASH",
    "fe33 PRESENTATION FORM FOR VERTICAL LOW LINE;PRESENTATION FORM FOR VERTICAL WAVY LOW LINE",
    "fe35 PRESENTATION FORM FOR VERTICAL LEFT PARENTHESIS",
    "fe36 PRESENTATION FORM FOR VERTICAL RIGHT PARENTHESIS",
    "fe37 PRESENTATION FORM FOR VERTICAL LEFT CURLY BRACKET",
    "fe38 PRESENTATION FORM FOR VERTICAL RIGHT CURLY BRACKET",
    "fe39 PRESENTATION FORM FOR VERTICAL LEFT TORTOISE SHELL BRACKET",
    "fe3a PRESENTATION FORM FOR VERTICAL RIGHT TORTOISE SHELL BRACKET",
    "fe3b PRESENTATION FORM FOR VERTICAL LEFT BLACK LENTICULAR BRACKET",
    "fe3c PRESENTATION FORM FOR VERTICAL RIGHT BLACK LENTICULAR BRACKET",
    "fe3d PRESENTATION FORM FOR VERTICAL LEFT DOUBLE ANGLE BRACKET",
    "fe3e PRESENTATION FORM FOR VERTICAL RIGHT DOUBLE ANGLE BRACKET",
    "fe3f PRESENTATION FORM FOR VERTICAL LEFT ANGLE BRACKET",
    "fe40 PRESENTATION FORM FOR VERTICAL RIGHT ANGLE BRACKET",
    "fe41 PRESENTATION FORM FOR VERTICAL LEFT CORNER BRACKET",
    "fe42 PRESENTATION FORM FOR VERTICAL RIGHT CORNER BRACKET",
    "fe43 PRESENTATION FORM FOR VERTICAL LEFT WHITE CORNER BRACKET",
    "fe44 PRESENTATION FORM FOR VERTICAL RIGHT WHITE CORNER BRACKET;SESAME DOT;WHITE SESAME DOT",
    "fe47 PRESENTATION FORM FOR VERTICAL LEFT SQUARE BRACKET",
    "fe48 PRESENTATION FORM FOR VERTICAL RIGHT SQUARE BRACKET;DASHED OVERLINE",
    "fe4a CENTRELINE OVERLINE;WAVY OVERLINE;DOUBLE WAVY OVERLINE;DASHED LOW LINE",
    "fe4e CENTRELINE LOW LINE;WAVY LOW LINE;SMALL COMMA;SMALL IDEOGRAPHIC COMMA;SMALL FULL STOP",
    "fe54 SMALL SEMICOLON;SMALL COLON;SMALL QUESTION MARK;SMALL EXCLAMATION MARK;SMALL EM DASH",
    "fe59 SMALL LEFT PARENTHESIS;SMALL RIGHT PARENTHESIS;SMALL LEFT CURLY BRACKET",
    "fe5c SMALL RIGHT CURLY BRACKET;SMALL LEFT TORTOISE SHELL BRACKET",
    "fe5e SMALL RIGHT TORTOISE SHELL BRACKET;SMALL NUMBER SIGN;SMALL AMPERSAND;SMALL ASTERISK",
    "fe62 SMALL PLUS SIGN;SMALL HYPHEN-MINUS;SMALL LESS-THAN SIGN;SMALL GREATER-THAN SIGN",
    "fe66 SMALL EQUALS SIGN",
    "fe68 SMALL REVERSE SOLIDUS;SMALL DOLLAR SIGN;SMALL PERCENT SIGN;SMALL COMMERCIAL AT",
    "fff9 INTERLINEAR ANNOTATION ANCHOR;INTERLINEAR ANNOTATION SEPARATOR",
    "fffb INTERLINEAR ANNOTATION TERMINATOR;OBJECT REPLACEMENT CHARACTER;REPLACEMENT CHARACTER"]

end ClientGen.Text
