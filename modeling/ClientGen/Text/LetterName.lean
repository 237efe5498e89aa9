/-!
# Names of letters

The names of the letters and marks of the scripts of Europe and the Near East, and of Devanagari,
Thai and the kana.
-/

namespace ClientGen.Text

/-- The names from U+0020 to U+0276. -/
def letterNamesA : List String :=
  ["20 SPACE;EXCLAMATION MARK;QUOTATION MARK;NUMBER SIGN;DOLLAR SIGN;PERCENT SIGN;AMPERSAND",
    "27 APOSTROPHE;LEFT PARENTHESIS;RIGHT PARENTHESIS;ASTERISK;PLUS SIGN;COMMA;HYPHEN-MINUS",
    "2e FULL STOP;SOLIDUS;DIGIT ZERO;DIGIT ONE;DIGIT TWO;DIGIT THREE;DIGIT FOUR;DIGIT FIVE",
    "36 DIGIT SIX;DIGIT SEVEN;DIGIT EIGHT;DIGIT NINE;COLON;SEMICOLON;LESS-THAN SIGN;EQUALS SIGN",
    "3e GREATER-THAN SIGN;QUESTION MARK;COMMERCIAL AT;LATIN CAPITAL LETTER A",
    "42 LATIN CAPITAL LETTER B;LATIN CAPITAL LETTER C;LATIN CAPITAL LETTER D",
    "45 LATIN CAPITAL LETTER E;LATIN CAPITAL LETTER F;LATIN CAPITAL LETTER G",
    "48 LATIN CAPITAL LETTER H;LATIN CAPITAL LETTER I;LATIN CAPITAL LETTER J",
    "4b LATIN CAPITAL LETTER K;LATIN CAPITAL LETTER L;LATIN CAPITAL LETTER M",
    "4e LATIN CAPITAL LETTER N;LATIN CAPITAL LETTER O;LATIN CAPITAL LETTER P",
    "51 LATIN CAPITAL LETTER Q;LATIN CAPITAL LETTER R;LATIN CAPITAL LETTER S",
    "54 LATIN CAPITAL LETTER T;LATIN CAPITAL LETTER U;LATIN CAPITAL LETTER V",
    "57 LATIN CAPITAL LETTER W;LATIN CAPITAL LETTER X;LATIN CAPITAL LETTER Y",
    "5a LATIN CAPITAL LETTER Z;LEFT SQUARE BRACKET;REVERSE SOLIDUS;RIGHT SQUARE BRACKET",
    "5e CIRCUMFLEX ACCENT;LOW LINE;GRAVE ACCENT;LATIN SMALL LETTER A;LATIN SMALL LETTER B",
    "63 LATIN SMALL LETTER C;LATIN SMALL LETTER D;LATIN SMALL LETTER E;LATIN SMALL LETTER F",
    "67 LATIN SMALL LETTER G;LATIN SMALL LETTER H;LATIN SMALL LETTER I;LATIN SMALL LETTER J",
    "6b LATIN SMALL LETTER K;LATIN SMALL LETTER L;LATIN SMALL LETTER M;LATIN SMALL LETTER N",
    "6f LATIN SMALL LETTER O;LATIN SMALL LETTER P;LATIN SMALL LETTER Q;LATIN SMALL LETTER R",
    "73 LATIN SMALL LETTER S;LATIN SMALL LETTER T;LATIN SMALL LETTER U;LATIN SMALL LETTER V",
    "77 LATIN SMALL LETTER W;LATIN SMALL LETTER X;LATIN SMALL LETTER Y;LATIN SMALL LETTER Z",
    "7b LEFT CURLY BRACKET;VERTICAL LINE;RIGHT CURLY BRACKET;TILDE",
    "a0 NO-BREAK SPACE;INVERTED EXCLAMATION MARK;CENT SIGN;POUND SIGN;CURRENCY SIGN;YEN SIGN",
    "a6 BROKEN BAR;SECTION SIGN;DIAERESIS;COPYRIGHT SIGN;FEMININE ORDINAL INDICATOR",
    "ab LEFT-POINTING DOUBLE ANGLE QUOTATION MARK;NOT SIGN;SOFT HYPHEN;REGISTERED SIGN;MACRON",
    "b0 DEGREE SIGN;PLUS-MINUS SIGN;SUPERSCRIPT TWO;SUPERSCRIPT THREE;ACUTE ACCENT;MICRO SIGN",
    "b6 PILCROW SIGN;MIDDLE DOT;CEDILLA;SUPERSCRIPT ONE;MASCULINE ORDINAL INDICATOR",
    "bb RIGHT-POINTING DOUBLE ANGLE QUOTATION MARK;VULGAR FRACTION ONE QUARTER",
    "bd VULGAR FRACTION ONE HALF;VULGAR FRACTION THREE QUARTERS;INVERTED QUESTION MARK",
    "c0 LATIN CAPITAL LETTER A WITH GRAVE;LATIN CAPITAL LETTER A WITH ACUTE",
    "c2 LATIN CAPITAL LETTER A WITH CIRCUMFLEX;LATIN CAPITAL LETTER A WITH TILDE",
    "c4 LATIN CAPITAL LETTER A WITH DIAERESIS;LATIN CAPITAL LETTER A WITH RING ABOVE",
    "c6 LATIN CAPITAL LETTER AE;LATIN CAPITAL LETTER C WITH CEDILLA",
    "c8 LATIN CAPITAL LETTER E WITH GRAVE;LATIN CAPITAL LETTER E WITH ACUTE",
    "ca LATIN CAPITAL LETTER E WITH CIRCUMFLEX;LATIN CAPITAL LETTER E WITH DIAERESIS",
    "cc LATIN CAPITAL LETTER I WITH GRAVE;LATIN CAPITAL LETTER I WITH ACUTE",
    "ce LATIN CAPITAL LETTER I WITH CIRCUMFLEX;LATIN CAPITAL LETTER I WITH DIAERESIS",
    "d0 LATIN CAPITAL LETTER ETH;LATIN CAPITAL LETTER N WITH TILDE",
    "d2 LATIN CAPITAL LETTER O WITH GRAVE;LATIN CAPITAL LETTER O WITH ACUTE",
    "d4 LATIN CAPITAL LETTER O WITH CIRCUMFLEX;LATIN CAPITAL LETTER O WITH TILDE",
    "d6 LATIN CAPITAL LETTER O WITH DIAERESIS;MULTIPLICATION SIGN",
    "d8 LATIN CAPITAL LETTER O WITH STROKE;LATIN CAPITAL LETTER U WITH GRAVE",
    "da LATIN CAPITAL LETTER U WITH ACUTE;LATIN CAPITAL LETTER U WITH CIRCUMFLEX",
    "dc LATIN CAPITAL LETTER U WITH DIAERESIS;LATIN CAPITAL LETTER Y WITH ACUTE",
    "de LATIN CAPITAL LETTER THORN;LATIN SMALL LETTER SHARP S;LATIN SMALL LETTER A WITH GRAVE",
    "e1 LATIN SMALL LETTER A WITH ACUTE;LATIN SMALL LETTER A WITH CIRCUMFLEX",
    "e3 LATIN SMALL LETTER A WITH TILDE;LATIN SMALL LETTER A WITH DIAERESIS",
    "e5 LATIN SMALL LETTER A WITH RING ABOVE;LATIN SMALL LETTER AE",
    "e7 LATIN SMALL LETTER C WITH CEDILLA;LATIN SMALL LETTER E WITH GRAVE",
    "e9 LATIN SMALL LETTER E WITH ACUTE;LATIN SMALL LETTER E WITH CIRCUMFLEX",
    "eb LATIN SMALL LETTER E WITH DIAERESIS;LATIN SMALL LETTER I WITH GRAVE",
    "ed LATIN SMALL LETTER I WITH ACUTE;LATIN SMALL LETTER I WITH CIRCUMFLEX",
    "ef LATIN SMALL LETTER I WITH DIAERESIS;LATIN SMALL LETTER ETH",
    "f1 LATIN SMALL LETTER N WITH TILDE;LATIN SMALL LETTER O WITH GRAVE",
    "f3 LATIN SMALL LETTER O WITH ACUTE;LATIN SMALL LETTER O WITH CIRCUMFLEX",
    "f5 LATIN SMALL LETTER O WITH TILDE;LATIN SMALL LETTER O WITH DIAERESIS;DIVISION SIGN",
    "f8 LATIN SMALL LETTER O WITH STROKE;LATIN SMALL LETTER U WITH GRAVE",
    "fa LATIN SMALL LETTER U WITH ACUTE;LATIN SMALL LETTER U WITH CIRCUMFLEX",
    "fc LATIN SMALL LETTER U WITH DIAERESIS;LATIN SMALL LETTER Y WITH ACUTE",
    "fe LATIN SMALL LETTER THORN;LATIN SMALL LETTER Y WITH DIAERESIS",
    "100 LATIN CAPITAL LETTER A WITH MACRON;LATIN SMALL LETTER A WITH MACRON",
    "102 LATIN CAPITAL LETTER A WITH BREVE;LATIN SMALL LETTER A WITH BREVE",
    "104 LATIN CAPITAL LETTER A WITH OGONEK;LATIN SMALL LETTER A WITH OGONEK",
    "106 LATIN CAPITAL LETTER C WITH ACUTE;LATIN SMALL LETTER C WITH ACUTE",
    "108 LATIN CAPITAL LETTER C WITH CIRCUMFLEX;LATIN SMALL LETTER C WITH CIRCUMFLEX",
    "10a LATIN CAPITAL LETTER C WITH DOT ABOVE;LATIN SMALL LETTER C WITH DOT ABOVE",
    "10c LATIN CAPITAL LETTER C WITH CARON;LATIN SMALL LETTER C WITH CARON",
    "10e LATIN CAPITAL LETTER D WITH CARON;LATIN SMALL LETTER D WITH CARON",
    "110 LATIN CAPITAL LETTER D WITH STROKE;LATIN SMALL LETTER D WITH STROKE",
    "112 LATIN CAPITAL LETTER E WITH MACRON;LATIN SMALL LETTER E WITH MACRON",
    "114 LATIN CAPITAL LETTER E WITH BREVE;LATIN SMALL LETTER E WITH BREVE",
    "116 LATIN CAPITAL LETTER E WITH DOT ABOVE;LATIN SMALL LETTER E WITH DOT ABOVE",
    "118 LATIN CAPITAL LETTER E WITH OGONEK;LATIN SMALL LETTER E WITH OGONEK",
    "11a LATIN CAPITAL LETTER E WITH CARON;LATIN SMALL LETTER E WITH CARON",
    "11c LATIN CAPITAL LETTER G WITH CIRCUMFLEX;LATIN SMALL LETTER G WITH CIRCUMFLEX",
    "11e LATIN CAPITAL LETTER G WITH BREVE;LATIN SMALL LETTER G WITH BREVE",
    "120 LATIN CAPITAL LETTER G WITH DOT ABOVE;LATIN SMALL LETTER G WITH DOT ABOVE",
    "122 LATIN CAPITAL LETTER G WITH CEDILLA;LATIN SMALL LETTER G WITH CEDILLA",
    "124 LATIN CAPITAL LETTER H WITH CIRCUMFLEX;LATIN SMALL LETTER H WITH CIRCUMFLEX",
    "126 LATIN CAPITAL LETTER H WITH STROKE;LATIN SMALL LETTER H WITH STROKE",
    "128 LATIN CAPITAL LETTER I WITH TILDE;LATIN SMALL LETTER I WITH TILDE",
    "12a LATIN CAPITAL LETTER I WITH MACRON;LATIN SMALL LETTER I WITH MACRON",
    "12c LATIN CAPITAL LETTER I WITH BREVE;LATIN SMALL LETTER I WITH BREVE",
    "12e LATIN CAPITAL LETTER I WITH OGONEK;LATIN SMALL LETTER I WITH OGONEK",
    "130 LATIN CAPITAL LETTER I WITH DOT ABOVE;LATIN SMALL LETTER DOTLESS I",
    "132 LATIN CAPITAL LIGATURE IJ;LATIN SMALL LIGATURE IJ",
    "134 LATIN CAPITAL LETTER J WITH CIRCUMFLEX;LATIN SMALL LETTER J WITH CIRCUMFLEX",
    "136 LATIN CAPITAL LETTER K WITH CEDILLA;LATIN SMALL LETTER K WITH CEDILLA",
    "138 LATIN SMALL LETTER KRA;LATIN CAPITAL LETTER L WITH ACUTE",
    "13a LATIN SMALL LETTER L WITH ACUTE;LATIN CAPITAL LETTER L WITH CEDILLA",
    "13c LATIN SMALL LETTER L WITH CEDILLA;LATIN CAPITAL LETTER L WITH CARON",
    "13e LATIN SMALL LETTER L WITH CARON;LATIN CAPITAL LETTER L WITH MIDDLE DOT",
    "140 LATIN SMALL LETTER L WITH MIDDLE DOT;LATIN CAPITAL LETTER L WITH STROKE",
    "142 LATIN SMALL LETTER L WITH STROKE;LATIN CAPITAL LETTER N WITH ACUTE",
    "144 LATIN SMALL LETTER N WITH ACUTE;LATIN CAPITAL LETTER N WITH CEDILLA",
    "146 LATIN SMALL LETTER N WITH CEDILLA;LATIN CAPITAL LETTER N WITH CARON",
    "148 LATIN SMALL LETTER N WITH CARON;LATIN SMALL LETTER N PRECEDED BY APOSTROPHE",
    "14a LATIN CAPITAL LETTER ENG;LATIN SMALL LETTER ENG;LATIN CAPITAL LETTER O WITH MACRON",
    "14d LATIN SMALL LETTER O WITH MACRON;LATIN CAPITAL LETTER O WITH BREVE",
    "14f LATIN SMALL LETTER O WITH BREVE;LATIN CAPITAL LETTER O WITH DOUBLE ACUTE",
    "151 LATIN SMALL LETTER O WITH DOUBLE ACUTE;LATIN CAPITAL LIGATURE OE",
    "153 LATIN SMALL LIGATURE OE;LATIN CAPITAL LETTER R WITH ACUTE",
    "155 LATIN SMALL LETTER R WITH ACUTE;LATIN CAPITAL LETTER R WITH CEDILLA",
    "157 LATIN SMALL LETTER R WITH CEDILLA;LATIN CAPITAL LETTER R WITH CARON",
    "159 LATIN SMALL LETTER R WITH CARON;LATIN CAPITAL LETTER S WITH ACUTE",
    "15b LATIN SMALL LETTER S WITH ACUTE;LATIN CAPITAL LETTER S WITH CIRCUMFLEX",
    "15d LATIN SMALL LETTER S WITH CIRCUMFLEX;LATIN CAPITAL LETTER S WITH CEDILLA",
    "15f LATIN SMALL LETTER S WITH CEDILLA;LATIN CAPITAL LETTER S WITH CARON",
    "161 LATIN SMALL LETTER S WITH CARON;LATIN CAPITAL LETTER T WITH CEDILLA",
    "163 LATIN SMALL LETTER T WITH CEDILLA;LATIN CAPITAL LETTER T WITH CARON",
    "165 LATIN SMALL LETTER T WITH CARON;LATIN CAPITAL LETTER T WITH STROKE",
    "167 LATIN SMALL LETTER T WITH STROKE;LATIN CAPITAL LETTER U WITH TILDE",
    "169 LATIN SMALL LETTER U WITH TILDE;LATIN CAPITAL LETTER U WITH MACRON",
    "16b LATIN SMALL LETTER U WITH MACRON;LATIN CAPITAL LETTER U WITH BREVE",
    "16d LATIN SMALL LETTER U WITH BREVE;LATIN CAPITAL LETTER U WITH RING ABOVE",
    "16f LATIN SMALL LETTER U WITH RING ABOVE;LATIN CAPITAL LETTER U WITH DOUBLE ACUTE",
    "171 LATIN SMALL LETTER U WITH DOUBLE ACUTE;LATIN CAPITAL LETTER U WITH OGONEK",
    "173 LATIN SMALL LETTER U WITH OGONEK;LATIN CAPITAL LETTER W WITH CIRCUMFLEX",
    "175 LATIN SMALL LETTER W WITH CIRCUMFLEX;LATIN CAPITAL LETTER Y WITH CIRCUMFLEX",
    "177 LATIN SMALL LETTER Y WITH CIRCUMFLEX;LATIN CAPITAL LETTER Y WITH DIAERESIS",
    "179 LATIN CAPITAL LETTER Z WITH ACUTE;LATIN SMALL LETTER Z WITH ACUTE",
    "17b LATIN CAPITAL LETTER Z WITH DOT ABOVE;LATIN SMALL LETTER Z WITH DOT ABOVE",
    "17d LATIN CAPITAL LETTER Z WITH CARON;LATIN SMALL LETTER Z WITH CARON",
    "17f LATIN SMALL LETTER LONG S;LATIN SMALL LETTER B WITH STROKE",
    "181 LATIN CAPITAL LETTER B WITH HOOK;LATIN CAPITAL LETTER B WITH TOPBAR",
    "183 LATIN SMALL LETTER B WITH TOPBAR;LATIN CAPITAL LETTER TONE SIX",
    "185 LATIN SMALL LETTER TONE SIX;LATIN CAPITAL LETTER OPEN O",
    "187 LATIN CAPITAL LETTER C WITH HOOK;LATIN SMALL LETTER C WITH HOOK",
    "189 LATIN CAPITAL LETTER AFRICAN D;LATIN CAPITAL LETTER D WITH HOOK",
    "18b LATIN CAPITAL LETTER D WITH TOPBAR;LATIN SMALL LETTER D WITH TOPBAR",
    "18d LATIN SMALL LETTER TURNED DELTA;LATIN CAPITAL LETTER REVERSED E",
    "18f LATIN CAPITAL LETTER SCHWA;LATIN CAPITAL LETTER OPEN E",
    "191 LATIN CAPITAL LETTER F WITH HOOK;LATIN SMALL LETTER F WITH HOOK",
    "193 LATIN CAPITAL LETTER G WITH HOOK;LATIN CAPITAL LETTER GAMMA;LATIN SMALL LETTER HV",
    "196 LATIN CAPITAL LETTER IOTA;LATIN CAPITAL LETTER I WITH STROKE",
    "198 LATIN CAPITAL LETTER K WITH HOOK;LATIN SMALL LETTER K WITH HOOK",
    "19a LATIN SMALL LETTER L WITH BAR;LATIN SMALL LETTER LAMBDA WITH STROKE",
    "19c LATIN CAPITAL LETTER TURNED M;LATIN CAPITAL LETTER N WITH LEFT HOOK",
    "19e LATIN SMALL LETTER N WITH LONG RIGHT LEG;LATIN CAPITAL LETTER O WITH MIDDLE TILDE",
    "1a0 LATIN CAPITAL LETTER O WITH HORN;LATIN SMALL LETTER O WITH HORN",
    "1a2 LATIN CAPITAL LETTER OI;LATIN SMALL LETTER OI;LATIN CAPITAL LETTER P WITH HOOK",
    "1a5 LATIN SMALL LETTER P WITH HOOK;LATIN LETTER YR;LATIN CAPITAL LETTER TONE TWO",
    "1a8 LATIN SMALL LETTER TONE TWO;LATIN CAPITAL LETTER ESH;LATIN LETTER REVERSED ESH LOOP",
    "1ab LATIN SMALL LETTER T WITH PALATAL HOOK;LATIN CAPITAL LETTER T WITH HOOK",
    "1ad LATIN SMALL LETTER T WITH HOOK;LATIN CAPITAL LETTER T WITH RETROFLEX HOOK",
    "1af LATIN CAPITAL LETTER U WITH HORN;LATIN SMALL LETTER U WITH HORN",
    "1b1 LATIN CAPITAL LETTER UPSILON;LATIN CAPITAL LETTER V WITH HOOK",
    "1b3 LATIN CAPITAL LETTER Y WITH HOOK;LATIN SMALL LETTER Y WITH HOOK",
    "1b5 LATIN CAPITAL LETTER Z WITH STROKE;LATIN SMALL LETTER Z WITH STROKE",
    "1b7 LATIN CAPITAL LETTER EZH;LATIN CAPITAL LETTER EZH REVERSED",
    "1b9 LATIN SMALL LETTER EZH REVERSED;LATIN SMALL LETTER EZH WITH TAIL",
    "1bb LATIN LETTER TWO WITH STROKE;LATIN CAPITAL LETTER TONE FIVE",
    "1bd LATIN SMALL LETTER TONE FIVE;LATIN LETTER INVERTED GLOTTAL STOP WITH STROKE",
    "1bf LATIN LETTER WYNN;LATIN LETTER DENTAL CLICK;LATIN LETTER LATERAL CLICK",
    "1c2 LATIN LETTER ALVEOLAR CLICK;LATIN LETTER RETROFLEX CLICK",
    "1c4 LATIN CAPITAL LETTER DZ WITH CARON",
    "1c5 LATIN CAPITAL LETTER D WITH SMALL LETTER Z WITH CARON;LATIN SMALL LETTER DZ WITH CARON",
    "1c7 LATIN CAPITAL LETTER LJ;LATIN CAPITAL LETTER L WITH SMALL LETTER J",
    "1c9 LATIN SMALL LETTER LJ;LATIN CAPITAL LETTER NJ",
    "1cb LATIN CAPITAL LETTER N WITH SMALL LETTER J;LATIN SMALL LETTER NJ",
    "1cd LATIN CAPITAL LETTER A WITH CARON;LATIN SMALL LETTER A WITH CARON",
    "1cf LATIN CAPITAL LETTER I WITH CARON;LATIN SMALL LETTER I WITH CARON",
    "1d1 LATIN CAPITAL LETTER O WITH CARON;LATIN SMALL LETTER O WITH CARON",
    "1d3 LATIN CAPITAL LETTER U WITH CARON;LATIN SMALL LETTER U WITH CARON",
    "1d5 LATIN CAPITAL LETTER U WITH DIAERESIS AND MACRON",
    "1d6 LATIN SMALL LETTER U WITH DIAERESIS AND MACRON",
    "1d7 LATIN CAPITAL LETTER U WITH DIAERESIS AND ACUTE",
    "1d8 LATIN SMALL LETTER U WITH DIAERESIS AND ACUTE",
    "1d9 LATIN CAPITAL LETTER U WITH DIAERESIS AND CARON",
    "1da LATIN SMALL LETTER U WITH DIAERESIS AND CARON",
    "1db LATIN CAPITAL LETTER U WITH DIAERESIS AND GRAVE",
    "1dc LATIN SMALL LETTER U WITH DIAERESIS AND GRAVE;LATIN SMALL LETTER TURNED E",
    "1de LATIN CAPITAL LETTER A WITH DIAERESIS AND MACRON",
    "1df LATIN SMALL LETTER A WITH DIAERESIS AND MACRON",
    "1e0 LATIN CAPITAL LETTER A WITH DOT ABOVE AND MACRON",
    "1e1 LATIN SMALL LETTER A WITH DOT ABOVE AND MACRON;LATIN CAPITAL LETTER AE WITH MACRON",
    "1e3 LATIN SMALL LETTER AE WITH MACRON;LATIN CAPITAL LETTER G WITH STROKE",
    "1e5 LATIN SMALL LETTER G WITH STROKE;LATIN CAPITAL LETTER G WITH CARON",
    "1e7 LATIN SMALL LETTER G WITH CARON;LATIN CAPITAL LETTER K WITH CARON",
    "1e9 LATIN SMALL LETTER K WITH CARON;LATIN CAPITAL LETTER O WITH OGONEK",
    "1eb LATIN SMALL LETTER O WITH OGONEK;LATIN CAPITAL LETTER O WITH OGONEK AND MACRON",
    "1ed LATIN SMALL LETTER O WITH OGONEK AND MACRON;LATIN CAPITAL LETTER EZH WITH CARON",
    "1ef LATIN SMALL LETTER EZH WITH CARON;LATIN SMALL LETTER J WITH CARON",
    "1f1 LATIN CAPITAL LETTER DZ;LATIN CAPITAL LETTER D WITH SMALL LETTER Z",
    "1f3 LATIN SMALL LETTER DZ;LATIN CAPITAL LETTER G WITH ACUTE",
    "1f5 LATIN SMALL LETTER G WITH ACUTE;LATIN CAPITAL LETTER HWAIR;LATIN CAPITAL LETTER WYNN",
    "1f8 LATIN CAPITAL LETTER N WITH GRAVE;LATIN SMALL LETTER N WITH GRAVE",
    "1fa LATIN CAPITAL LETTER A WITH RING ABOVE AND ACUTE",
    "1fb LATIN SMALL LETTER A WITH RING ABOVE AND ACUTE;LATIN CAPITAL LETTER AE WITH ACUTE",
    "1fd LATIN SMALL LETTER AE WITH ACUTE;LATIN CAPITAL LETTER O WITH STROKE AND ACUTE",
    "1ff LATIN SMALL LETTER O WITH STROKE AND ACUTE;LATIN CAPITAL LETTER A WITH DOUBLE GRAVE",
    "201 LATIN SMALL LETTER A WITH DOUBLE GRAVE;LATIN CAPITAL LETTER A WITH INVERTED BREVE",
    "203 LATIN SMALL LETTER A WITH INVERTED BREVE;LATIN CAPITAL LETTER E WITH DOUBLE GRAVE",
    "205 LATIN SMALL LETTER E WITH DOUBLE GRAVE;LATIN CAPITAL LETTER E WITH INVERTED BREVE",
    "207 LATIN SMALL LETTER E WITH INVERTED BREVE;LATIN CAPITAL LETTER I WITH DOUBLE GRAVE",
    "209 LATIN SMALL LETTER I WITH DOUBLE GRAVE;LATIN CAPITAL LETTER I WITH INVERTED BREVE",
    "20b LATIN SMALL LETTER I WITH INVERTED BREVE;LATIN CAPITAL LETTER O WITH DOUBLE GRAVE",
    "20d LATIN SMALL LETTER O WITH DOUBLE GRAVE;LATIN CAPITAL LETTER O WITH INVERTED BREVE",
    "20f LATIN SMALL LETTER O WITH INVERTED BREVE;LATIN CAPITAL LETTER R WITH DOUBLE GRAVE",
    "211 LATIN SMALL LETTER R WITH DOUBLE GRAVE;LATIN CAPITAL LETTER R WITH INVERTED BREVE",
    "213 LATIN SMALL LETTER R WITH INVERTED BREVE;LATIN CAPITAL LETTER U WITH DOUBLE GRAVE",
    "215 LATIN SMALL LETTER U WITH DOUBLE GRAVE;LATIN CAPITAL LETTER U WITH INVERTED BREVE",
    "217 LATIN SMALL LETTER U WITH INVERTED BREVE;LATIN CAPITAL LETTER S WITH COMMA BELOW",
    "219 LATIN SMALL LETTER S WITH COMMA BELOW;LATIN CAPITAL LETTER T WITH COMMA BELOW",
    "21b LATIN SMALL LETTER T WITH COMMA BELOW;LATIN CAPITAL LETTER YOGH",
    "21d LATIN SMALL LETTER YOGH;LATIN CAPITAL LETTER H WITH CARON",
    "21f LATIN SMALL LETTER H WITH CARON;LATIN CAPITAL LETTER N WITH LONG RIGHT LEG",
    "221 LATIN SMALL LETTER D WITH CURL;LATIN CAPITAL LETTER OU;LATIN SMALL LETTER OU",
    "224 LATIN CAPITAL LETTER Z WITH HOOK;LATIN SMALL LETTER Z WITH HOOK",
    "226 LATIN CAPITAL LETTER A WITH DOT ABOVE;LATIN SMALL LETTER A WITH DOT ABOVE",
    "228 LATIN CAPITAL LETTER E WITH CEDILLA;LATIN SMALL LETTER E WITH CEDILLA",
    "22a LATIN CAPITAL LETTER O WITH DIAERESIS AND MACRON",
    "22b LATIN SMALL LETTER O WITH DIAERESIS AND MACRON",
    "22c LATIN CAPITAL LETTER O WITH TILDE AND MACRON",
    "22d LATIN SMALL LETTER O WITH TILDE AND MACRON;LATIN CAPITAL LETTER O WITH DOT ABOVE",
    "22f LATIN SMALL LETTER O WITH DOT ABOVE;LATIN CAPITAL LETTER O WITH DOT ABOVE AND MACRON",
    "231 LATIN SMALL LETTER O WITH DOT ABOVE AND MACRON;LATIN CAPITAL LETTER Y WITH MACRON",
    "233 LATIN SMALL LETTER Y WITH MACRON;LATIN SMALL LETTER L WITH CURL",
    "235 LATIN SMALL LETTER N WITH CURL;LATIN SMALL LETTER T WITH CURL",
    "237 LATIN SMALL LETTER DOTLESS J;LATIN SMALL LETTER DB DIGRAPH",
    "239 LATIN SMALL LETTER QP DIGRAPH;LATIN CAPITAL LETTER A WITH STROKE",
    "23b LATIN CAPITAL LETTER C WITH STROKE;LATIN SMALL LETTER C WITH STROKE",
    "23d LATIN CAPITAL LETTER L WITH BAR;LATIN CAPITAL LETTER T WITH DIAGONAL STROKE",
    "23f LATIN SMALL LETTER S WITH SWASH TAIL;LATIN SMALL LETTER Z WITH SWASH TAIL",
    "241 LATIN CAPITAL LETTER GLOTTAL STOP;LATIN SMALL LETTER GLOTTAL STOP",
    "243 LATIN CAPITAL LETTER B WITH STROKE;LATIN CAPITAL LETTER U BAR",
    "245 LATIN CAPITAL LETTER TURNED V;LATIN CAPITAL LETTER E WITH STROKE",
    "247 LATIN SMALL LETTER E WITH STROKE;LATIN CAPITAL LETTER J WITH STROKE",
    "249 LATIN SMALL LETTER J WITH STROKE;LATIN CAPITAL LETTER SMALL Q WITH HOOK TAIL",
    "24b LATIN SMALL LETTER Q WITH HOOK TAIL;LATIN CAPITAL LETTER R WITH STROKE",
    "24d LATIN SMALL LETTER R WITH STROKE;LATIN CAPITAL LETTER Y WITH STROKE",
    "24f LATIN SMALL LETTER Y WITH STROKE;LATIN SMALL LETTER TURNED A;LATIN SMALL LETTER ALPHA",
    "252 LATIN SMALL LETTER TURNED ALPHA;LATIN SMALL LETTER B WITH HOOK",
    "254 LATIN SMALL LETTER OPEN O;LATIN SMALL LETTER C WITH CURL",
    "256 LATIN SMALL LETTER D WITH TAIL;LATIN SMALL LETTER D WITH HOOK",
    "258 LATIN SMALL LETTER REVERSED E;LATIN SMALL LETTER SCHWA",
    "25a LATIN SMALL LETTER SCHWA WITH HOOK;LATIN SMALL LETTER OPEN E",
    "25c LATIN SMALL LETTER REVERSED OPEN E;LATIN SMALL LETTER REVERSED OPEN E WITH HOOK",
    "25e LATIN SMALL LETTER CLOSED REVERSED OPEN E;LATIN SMALL LETTER DOTLESS J WITH STROKE",
    "260 LATIN SMALL LETTER G WITH HOOK;LATIN SMALL LETTER SCRIPT G",
    "262 LATIN LETTER SMALL CAPITAL G;LATIN SMALL LETTER GAMMA;LATIN SMALL LETTER RAMS HORN",
    "265 LATIN SMALL LETTER TURNED H;LATIN SMALL LETTER H WITH HOOK",
    "267 LATIN SMALL LETTER HENG WITH HOOK;LATIN SMALL LETTER I WITH STROKE",
    "269 LATIN SMALL LETTER IOTA;LATIN LETTER SMALL CAPITAL I",
    "26b LATIN SMALL LETTER L WITH MIDDLE TILDE;LATIN SMALL LETTER L WITH BELT",
    "26d LATIN SMALL LETTER L WITH RETROFLEX HOOK;LATIN SMALL LETTER LEZH",
    "26f LATIN SMALL LETTER TURNED M;LATIN SMALL LETTER TURNED M WITH LONG LEG",
    "271 LATIN SMALL LETTER M WITH HOOK;LATIN SMALL LETTER N WITH LEFT HOOK",
    "273 LATIN SMALL LETTER N WITH RETROFLEX HOOK;LATIN LETTER SMALL CAPITAL N",
    "275 LATIN SMALL LETTER BARRED O;LATIN LETTER SMALL CAPITAL OE"]

/-- The names from U+0277 to U+04D2. -/
def letterNamesB : List String :=
  ["277 LATIN SMALL LETTER CLOSED OMEGA;LATIN SMALL LETTER PHI;LATIN SMALL LETTER TURNED R",
    "27a LATIN SMALL LETTER TURNED R WITH LONG LEG;LATIN SMALL LETTER TURNED R WITH HOOK",
    "27c LATIN SMALL LETTER R WITH LONG LEG;LATIN SMALL LETTER R WITH TAIL",
    "27e LATIN SMALL LETTER R WITH FISHHOOK;LATIN SMALL LETTER REVERSED R WITH FISHHOOK",
    "280 LATIN LETTER SMALL CAPITAL R;LATIN LETTER SMALL CAPITAL INVERTED R",
    "282 LATIN SMALL LETTER S WITH HOOK;LATIN SMALL LETTER ESH",
    "284 LATIN SMALL LETTER DOTLESS J WITH STROKE AND HOOK",
    "285 LATIN SMALL LETTER SQUAT REVERSED ESH;LATIN SMALL LETTER ESH WITH CURL",
    "287 LATIN SMALL LETTER TURNED T;LATIN SMALL LETTER T WITH RETROFLEX HOOK",
    "289 LATIN SMALL LETTER U BAR;LATIN SMALL LETTER UPSILON;LATIN SMALL LETTER V WITH HOOK",
    "28c LATIN SMALL LETTER TURNED V;LATIN SMALL LETTER TURNED W;LATIN SMALL LETTER TURNED Y",
    "28f LATIN LETTER SMALL CAPITAL Y;LATIN SMALL LETTER Z WITH RETROFLEX HOOK",
    "291 LATIN SMALL LETTER Z WITH CURL;LATIN SMALL LETTER EZH;LATIN SMALL LETTER EZH WITH CURL",
    "294 LATIN LETTER GLOTTAL STOP;LATIN LETTER PHARYNGEAL VOICED FRICATIVE",
    "296 LATIN LETTER INVERTED GLOTTAL STOP;LATIN LETTER STRETCHED C",
    "298 LATIN LETTER BILABIAL CLICK;LATIN LETTER SMALL CAPITAL B",
    "29a LATIN SMALL LETTER CLOSED OPEN E;LATIN LETTER SMALL CAPITAL G WITH HOOK",
    "29c LATIN LETTER SMALL CAPITAL H;LATIN SMALL LETTER J WITH CROSSED-TAIL",
    "29e LATIN SMALL LETTER TURNED K;LATIN LETTER SMALL CAPITAL L",
    "2a0 LATIN SMALL LETTER Q WITH HOOK;LATIN LETTER GLOTTAL STOP WITH STROKE",
    "2a2 LATIN LETTER REVERSED GLOTTAL STOP WITH STROKE;LATIN SMALL LETTER DZ DIGRAPH",
    "2a4 LATIN SMALL LETTER DEZH DIGRAPH;LATIN SMALL LETTER DZ DIGRAPH WITH CURL",
    "2a6 LATIN SMALL LETTER TS DIGRAPH;LATIN SMALL LETTER TESH DIGRAPH",
    "2a8 LATIN SMALL LETTER TC DIGRAPH WITH CURL;LATIN SMALL LETTER FENG DIGRAPH",
    "2aa LATIN SMALL LETTER LS DIGRAPH;LATIN SMALL LETTER LZ DIGRAPH",
    "2ac LATIN LETTER BILABIAL PERCUSSIVE;LATIN LETTER BIDENTAL PERCUSSIVE",
    "2ae LATIN SMALL LETTER TURNED H WITH FISHHOOK",
    "2af LATIN SMALL LETTER TURNED H WITH FISHHOOK AND TAIL;MODIFIER LETTER SMALL H",
    "2b1 MODIFIER LETTER SMALL H WITH HOOK;MODIFIER LETTER SMALL J;MODIFIER LETTER SMALL R",
    "2b4 MODIFIER LETTER SMALL TURNED R;MODIFIER LETTER SMALL TURNED R WITH HOOK",
    "2b6 MODIFIER LETTER SMALL CAPITAL INVERTED R;MODIFIER LETTER SMALL W",
    "2b8 MODIFIER LETTER SMALL Y;MODIFIER LETTER PRIME;MODIFIER LETTER DOUBLE PRIME",
    "2bb MODIFIER LETTER TURNED COMMA;MODIFIER LETTER APOSTROPHE;MODIFIER LETTER REVERSED COMMA",
    "2be MODIFIER LETTER RIGHT HALF RING;MODIFIER LETTER LEFT HALF RING",
    "2c0 MODIFIER LETTER GLOTTAL STOP;MODIFIER LETTER REVERSED GLOTTAL STOP",
    "2c2 MODIFIER LETTER LEFT ARROWHEAD;MODIFIER LETTER RIGHT ARROWHEAD",
    "2c4 MODIFIER LETTER UP ARROWHEAD;MODIFIER LETTER DOWN ARROWHEAD",
    "2c6 MODIFIER LETTER CIRCUMFLEX ACCENT;CARON;MODIFIER LETTER VERTICAL LINE",
    "2c9 MODIFIER LETTER MACRON;MODIFIER LETTER ACUTE ACCENT;MODIFIER LETTER GRAVE ACCENT",
    "2cc MODIFIER LETTER LOW VERTICAL LINE;MODIFIER LETTER LOW MACRON",
    "2ce MODIFIER LETTER LOW GRAVE ACCENT;MODIFIER LETTER LOW ACUTE ACCENT",
    "2d0 MODIFIER LETTER TRIANGULAR COLON;MODIFIER LETTER HALF TRIANGULAR COLON",
    "2d2 MODIFIER LETTER CENTRED RIGHT HALF RING;MODIFIER LETTER CENTRED LEFT HALF RING",
    "2d4 MODIFIER LETTER UP TACK;MODIFIER LETTER DOWN TACK;MODIFIER LETTER PLUS SIGN",
    "2d7 MODIFIER LETTER MINUS SIGN;BREVE;DOT ABOVE;RING ABOVE;OGONEK;SMALL TILDE",
    "2dd DOUBLE ACUTE ACCENT;MODIFIER LETTER RHOTIC HOOK;MODIFIER LETTER CROSS ACCENT",
    "2e0 MODIFIER LETTER SMALL GAMMA;MODIFIER LETTER SMALL L;MODIFIER LETTER SMALL S",
    "2e3 MODIFIER LETTER SMALL X;MODIFIER LETTER SMALL REVERSED GLOTTAL STOP",
    "2e5 MODIFIER LETTER EXTRA-HIGH TONE BAR;MODIFIER LETTER HIGH TONE BAR",
    "2e7 MODIFIER LETTER MID TONE BAR;MODIFIER LETTER LOW TONE BAR",
    "2e9 MODIFIER LETTER EXTRA-LOW TONE BAR;MODIFIER LETTER YIN DEPARTING TONE MARK",
    "2eb MODIFIER LETTER YANG DEPARTING TONE MARK;MODIFIER LETTER VOICING",
    "2ed MODIFIER LETTER UNASPIRATED;MODIFIER LETTER DOUBLE APOSTROPHE",
    "2ef MODIFIER LETTER LOW DOWN ARROWHEAD;MODIFIER LETTER LOW UP ARROWHEAD",
    "2f1 MODIFIER LETTER LOW LEFT ARROWHEAD;MODIFIER LETTER LOW RIGHT ARROWHEAD",
    "2f3 MODIFIER LETTER LOW RING;MODIFIER LETTER MIDDLE GRAVE ACCENT",
    "2f5 MODIFIER LETTER MIDDLE DOUBLE GRAVE ACCENT;MODIFIER LETTER MIDDLE DOUBLE ACUTE ACCENT",
    "2f7 MODIFIER LETTER LOW TILDE;MODIFIER LETTER RAISED COLON;MODIFIER LETTER BEGIN HIGH TONE",
    "2fa MODIFIER LETTER END HIGH TONE;MODIFIER LETTER BEGIN LOW TONE",
    "2fc MODIFIER LETTER END LOW TONE;MODIFIER LETTER SHELF;MODIFIER LETTER OPEN SHELF",
    "2ff MODIFIER LETTER LOW LEFT ARROW;COMBINING GRAVE ACCENT;COMBINING ACUTE ACCENT",
    "302 COMBINING CIRCUMFLEX ACCENT;COMBINING TILDE;COMBINING MACRON;COMBINING OVERLINE",
    "306 COMBINING BREVE;COMBINING DOT ABOVE;COMBINING DIAERESIS;COMBINING HOOK ABOVE",
    "30a COMBINING RING ABOVE;COMBINING DOUBLE ACUTE ACCENT;COMBINING CARON",
    "30d COMBINING VERTICAL LINE ABOVE;COMBINING DOUBLE VERTICAL LINE ABOVE",
    "30f COMBINING DOUBLE GRAVE ACCENT;COMBINING CANDRABINDU;COMBINING INVERTED BREVE",
    "312 COMBINING TURNED COMMA ABOVE;COMBINING COMMA ABOVE;COMBINING REVERSED COMMA ABOVE",
    "315 COMBINING COMMA ABOVE RIGHT;COMBINING GRAVE ACCENT BELOW;COMBINING ACUTE ACCENT BELOW",
    "318 COMBINING LEFT TACK BELOW;COMBINING RIGHT TACK BELOW;COMBINING LEFT ANGLE ABOVE",
    "31b COMBINING HORN;COMBINING LEFT HALF RING BELOW;COMBINING UP TACK BELOW",
    "31e COMBINING DOWN TACK BELOW;COMBINING PLUS SIGN BELOW;COMBINING MINUS SIGN BELOW",
    "321 COMBINING PALATALIZED HOOK BELOW;COMBINING RETROFLEX HOOK BELOW;COMBINING DOT BELOW",
    "324 COMBINING DIAERESIS BELOW;COMBINING RING BELOW;COMBINING COMMA BELOW;COMBINING CEDILLA",
    "328 COMBINING OGONEK;COMBINING VERTICAL LINE BELOW;COMBINING BRIDGE BELOW",
    "32b COMBINING INVERTED DOUBLE ARCH BELOW;COMBINING CARON BELOW",
    "32d COMBINING CIRCUMFLEX ACCENT BELOW;COMBINING BREVE BELOW;COMBINING INVERTED BREVE BELOW",
    "330 COMBINING TILDE BELOW;COMBINING MACRON BELOW;COMBINING LOW LINE",
    "333 COMBINING DOUBLE LOW LINE;COMBINING TILDE OVERLAY;COMBINING SHORT STROKE OVERLAY",
    "336 COMBINING LONG STROKE OVERLAY;COMBINING SHORT SOLIDUS OVERLAY",
    "338 COMBINING LONG SOLIDUS OVERLAY;COMBINING RIGHT HALF RING BELOW",
    "33a COMBINING INVERTED BRIDGE BELOW;COMBINING SQUARE BELOW;COMBINING SEAGULL BELOW",
    "33d COMBINING X ABOVE;COMBINING VERTICAL TILDE;COMBINING DOUBLE OVERLINE",
    "340 COMBINING GRAVE TONE MARK;COMBINING ACUTE TONE MARK;COMBINING GREEK PERISPOMENI",
    "343 COMBINING GREEK KORONIS;COMBINING GREEK DIALYTIKA TONOS;COMBINING GREEK YPOGEGRAMMENI",
    "346 COMBINING BRIDGE ABOVE;COMBINING EQUALS SIGN BELOW",
    "348 COMBINING DOUBLE VERTICAL LINE BELOW;COMBINING LEFT ANGLE BELOW",
    "34a COMBINING NOT TILDE ABOVE;COMBINING HOMOTHETIC ABOVE;COMBINING ALMOST EQUAL TO ABOVE",
    "34d COMBINING LEFT RIGHT ARROW BELOW;COMBINING UPWARDS ARROW BELOW",
    "34f COMBINING GRAPHEME JOINER;COMBINING RIGHT ARROWHEAD ABOVE",
    "351 COMBINING LEFT HALF RING ABOVE;COMBINING FERMATA;COMBINING X BELOW",
    "354 COMBINING LEFT ARROWHEAD BELOW;COMBINING RIGHT ARROWHEAD BELOW",
    "356 COMBINING RIGHT ARROWHEAD AND UP ARROWHEAD BELOW;COMBINING RIGHT HALF RING ABOVE",
    "358 COMBINING DOT ABOVE RIGHT;COMBINING ASTERISK BELOW;COMBINING DOUBLE RING BELOW",
    "35b COMBINING ZIGZAG ABOVE;COMBINING DOUBLE BREVE BELOW;COMBINING DOUBLE BREVE",
    "35e COMBINING DOUBLE MACRON;COMBINING DOUBLE MACRON BELOW;COMBINING DOUBLE TILDE",
    "361 COMBINING DOUBLE INVERTED BREVE;COMBINING DOUBLE RIGHTWARDS ARROW BELOW",
    "363 COMBINING LATIN SMALL LETTER A;COMBINING LATIN SMALL LETTER E",
    "365 COMBINING LATIN SMALL LETTER I;COMBINING LATIN SMALL LETTER O",
    "367 COMBINING LATIN SMALL LETTER U;COMBINING LATIN SMALL LETTER C",
    "369 COMBINING LATIN SMALL LETTER D;COMBINING LATIN SMALL LETTER H",
    "36b COMBINING LATIN SMALL LETTER M;COMBINING LATIN SMALL LETTER R",
    "36d COMBINING LATIN SMALL LETTER T;COMBINING LATIN SMALL LETTER V",
    "36f COMBINING LATIN SMALL LETTER X;GREEK CAPITAL LETTER HETA;GREEK SMALL LETTER HETA",
    "372 GREEK CAPITAL LETTER ARCHAIC SAMPI;GREEK SMALL LETTER ARCHAIC SAMPI;GREEK NUMERAL SIGN",
    "375 GREEK LOWER NUMERAL SIGN;GREEK CAPITAL LETTER PAMPHYLIAN DIGAMMA",
    "377 GREEK SMALL LETTER PAMPHYLIAN DIGAMMA",
    "37a GREEK YPOGEGRAMMENI;GREEK SMALL REVERSED LUNATE SIGMA SYMBOL",
    "37c GREEK SMALL DOTTED LUNATE SIGMA SYMBOL;GREEK SMALL REVERSED DOTTED LUNATE SIGMA SYMBOL",
    "37e GREEK QUESTION MARK;GREEK CAPITAL LETTER YOT",
    "384 GREEK TONOS;GREEK DIALYTIKA TONOS;GREEK CAPITAL LETTER ALPHA WITH TONOS",
    "387 GREEK ANO TELEIA;GREEK CAPITAL LETTER EPSILON WITH TONOS",
    "389 GREEK CAPITAL LETTER ETA WITH TONOS;GREEK CAPITAL LETTER IOTA WITH TONOS",
    "38c GREEK CAPITAL LETTER OMICRON WITH TONOS",
    "38e GREEK CAPITAL LETTER UPSILON WITH TONOS;GREEK CAPITAL LETTER OMEGA WITH TONOS",
    "390 GREEK SMALL LETTER IOTA WITH DIALYTIKA AND TONOS;GREEK CAPITAL LETTER ALPHA",
    "392 GREEK CAPITAL LETTER BETA;GREEK CAPITAL LETTER GAMMA;GREEK CAPITAL LETTER DELTA",
    "395 GREEK CAPITAL LETTER EPSILON;GREEK CAPITAL LETTER ZETA;GREEK CAPITAL LETTER ETA",
    "398 GREEK CAPITAL LETTER THETA;GREEK CAPITAL LETTER IOTA;GREEK CAPITAL LETTER KAPPA",
    "39b GREEK CAPITAL LETTER LAMDA;GREEK CAPITAL LETTER MU;GREEK CAPITAL LETTER NU",
    "39e GREEK CAPITAL LETTER XI;GREEK CAPITAL LETTER OMICRON;GREEK CAPITAL LETTER PI",
    "3a1 GREEK CAPITAL LETTER RHO",
    "3a3 GREEK CAPITAL LETTER SIGMA;GREEK CAPITAL LETTER TAU;GREEK CAPITAL LETTER UPSILON",
    "3a6 GREEK CAPITAL LETTER PHI;GREEK CAPITAL LETTER CHI;GREEK CAPITAL LETTER PSI",
    "3a9 GREEK CAPITAL LETTER OMEGA;GREEK CAPITAL LETTER IOTA WITH DIALYTIKA",
    "3ab GREEK CAPITAL LETTER UPSILON WITH DIALYTIKA;GREEK SMALL LETTER ALPHA WITH TONOS",
    "3ad GREEK SMALL LETTER EPSILON WITH TONOS;GREEK SMALL LETTER ETA WITH TONOS",
    "3af GREEK SMALL LETTER IOTA WITH TONOS;GREEK SMALL LETTER UPSILON WITH DIALYTIKA AND TONOS",
    "3b1 GREEK SMALL LETTER ALPHA;GREEK SMALL LETTER BETA;GREEK SMALL LETTER GAMMA",
    "3b4 GREEK SMALL LETTER DELTA;GREEK SMALL LETTER EPSILON;GREEK SMALL LETTER ZETA",
    "3b7 GREEK SMALL LETTER ETA;GREEK SMALL LETTER THETA;GREEK SMALL LETTER IOTA",
    "3ba GREEK SMALL LETTER KAPPA;GREEK SMALL LETTER LAMDA;GREEK SMALL LETTER MU",
    "3bd GREEK SMALL LETTER NU;GREEK SMALL LETTER XI;GREEK SMALL LETTER OMICRON",
    "3c0 GREEK SMALL LETTER PI;GREEK SMALL LETTER RHO;GREEK SMALL LETTER FINAL SIGMA",
    "3c3 GREEK SMALL LETTER SIGMA;GREEK SMALL LETTER TAU;GREEK SMALL LETTER UPSILON",
    "3c6 GREEK SMALL LETTER PHI;GREEK SMALL LETTER CHI;GREEK SMALL LETTER PSI",
    "3c9 GREEK SMALL LETTER OMEGA;GREEK SMALL LETTER IOTA WITH DIALYTIKA",
    "3cb GREEK SMALL LETTER UPSILON WITH DIALYTIKA;GREEK SMALL LETTER OMICRON WITH TONOS",
    "3cd GREEK SMALL LETTER UPSILON WITH TONOS;GREEK SMALL LETTER OMEGA WITH TONOS",
    "3cf GREEK CAPITAL KAI SYMBOL;GREEK BETA SYMBOL;GREEK THETA SYMBOL",
    "3d2 GREEK UPSILON WITH HOOK SYMBOL;GREEK UPSILON WITH ACUTE AND HOOK SYMBOL",
    "3d4 GREEK UPSILON WITH DIAERESIS AND HOOK SYMBOL;GREEK PHI SYMBOL;GREEK PI SYMBOL",
    "3d7 GREEK KAI SYMBOL;GREEK LETTER ARCHAIC KOPPA;GREEK SMALL LETTER ARCHAIC KOPPA",
    "3da GREEK LETTER STIGMA;GREEK SMALL LETTER STIGMA;GREEK LETTER DIGAMMA",
    "3dd GREEK SMALL LETTER DIGAMMA;GREEK LETTER KOPPA;GREEK SMALL LETTER KOPPA",
    "3e0 GREEK LETTER SAMPI;GREEK SMALL LETTER SAMPI;COPTIC CAPITAL LETTER SHEI",
    "3e3 COPTIC SMALL LETTER SHEI;COPTIC CAPITAL LETTER FEI;COPTIC SMALL LETTER FEI",
    "3e6 COPTIC CAPITAL LETTER KHEI;COPTIC SMALL LETTER KHEI;COPTIC CAPITAL LETTER HORI",
    "3e9 COPTIC SMALL LETTER HORI;COPTIC CAPITAL LETTER GANGIA;COPTIC SMALL LETTER GANGIA",
    "3ec COPTIC CAPITAL LETTER SHIMA;COPTIC SMALL LETTER SHIMA;COPTIC CAPITAL LETTER DEI",
    "3ef COPTIC SMALL LETTER DEI;GREEK KAPPA SYMBOL;GREEK RHO SYMBOL;GREEK LUNATE SIGMA SYMBOL",
    "3f3 GREEK LETTER YOT;GREEK CAPITAL THETA SYMBOL;GREEK LUNATE EPSILON SYMBOL",
    "3f6 GREEK REVERSED LUNATE EPSILON SYMBOL;GREEK CAPITAL LETTER SHO;GREEK SMALL LETTER SHO",
    "3f9 GREEK CAPITAL LUNATE SIGMA SYMBOL;GREEK CAPITAL LETTER SAN;GREEK SMALL LETTER SAN",
    "3fc GREEK RHO WITH STROKE SYMBOL;GREEK CAPITAL REVERSED LUNATE SIGMA SYMBOL",
    "3fe GREEK CAPITAL DOTTED LUNATE SIGMA SYMBOL",
    "3ff GREEK CAPITAL REVERSED DOTTED LUNATE SIGMA SYMBOL",
    "400 CYRILLIC CAPITAL LETTER IE WITH GRAVE;CYRILLIC CAPITAL LETTER IO",
    "402 CYRILLIC CAPITAL LETTER DJE;CYRILLIC CAPITAL LETTER GJE",
    "404 CYRILLIC CAPITAL LETTER UKRAINIAN IE;CYRILLIC CAPITAL LETTER DZE",
    "406 CYRILLIC CAPITAL LETTER BYELORUSSIAN-UKRAINIAN I;CYRILLIC CAPITAL LETTER YI",
    "408 CYRILLIC CAPITAL LETTER JE;CYRILLIC CAPITAL LETTER LJE;CYRILLIC CAPITAL LETTER NJE",
    "40b CYRILLIC CAPITAL LETTER TSHE;CYRILLIC CAPITAL LETTER KJE",
    "40d CYRILLIC CAPITAL LETTER I WITH GRAVE;CYRILLIC CAPITAL LETTER SHORT U",
    "40f CYRILLIC CAPITAL LETTER DZHE;CYRILLIC CAPITAL LETTER A;CYRILLIC CAPITAL LETTER BE",
    "412 CYRILLIC CAPITAL LETTER VE;CYRILLIC CAPITAL LETTER GHE;CYRILLIC CAPITAL LETTER DE",
    "415 CYRILLIC CAPITAL LETTER IE;CYRILLIC CAPITAL LETTER ZHE;CYRILLIC CAPITAL LETTER ZE",
    "418 CYRILLIC CAPITAL LETTER I;CYRILLIC CAPITAL LETTER SHORT I;CYRILLIC CAPITAL LETTER KA",
    "41b CYRILLIC CAPITAL LETTER EL;CYRILLIC CAPITAL LETTER EM;CYRILLIC CAPITAL LETTER EN",
    "41e CYRILLIC CAPITAL LETTER O;CYRILLIC CAPITAL LETTER PE;CYRILLIC CAPITAL LETTER ER",
    "421 CYRILLIC CAPITAL LETTER ES;CYRILLIC CAPITAL LETTER TE;CYRILLIC CAPITAL LETTER U",
    "424 CYRILLIC CAPITAL LETTER EF;CYRILLIC CAPITAL LETTER HA;CYRILLIC CAPITAL LETTER TSE",
    "427 CYRILLIC CAPITAL LETTER CHE;CYRILLIC CAPITAL LETTER SHA;CYRILLIC CAPITAL LETTER SHCHA",
    "42a CYRILLIC CAPITAL LETTER HARD SIGN;CYRILLIC CAPITAL LETTER YERU",
    "42c CYRILLIC CAPITAL LETTER SOFT SIGN;CYRILLIC CAPITAL LETTER E;CYRILLIC CAPITAL LETTER YU",
    "42f CYRILLIC CAPITAL LETTER YA;CYRILLIC SMALL LETTER A;CYRILLIC SMALL LETTER BE",
    "432 CYRILLIC SMALL LETTER VE;CYRILLIC SMALL LETTER GHE;CYRILLIC SMALL LETTER DE",
    "435 CYRILLIC SMALL LETTER IE;CYRILLIC SMALL LETTER ZHE;CYRILLIC SMALL LETTER ZE",
    "438 CYRILLIC SMALL LETTER I;CYRILLIC SMALL LETTER SHORT I;CYRILLIC SMALL LETTER KA",
    "43b CYRILLIC SMALL LETTER EL;CYRILLIC SMALL LETTER EM;CYRILLIC SMALL LETTER EN",
    "43e CYRILLIC SMALL LETTER O;CYRILLIC SMALL LETTER PE;CYRILLIC SMALL LETTER ER",
    "441 CYRILLIC SMALL LETTER ES;CYRILLIC SMALL LETTER TE;CYRILLIC SMALL LETTER U",
    "444 CYRILLIC SMALL LETTER EF;CYRILLIC SMALL LETTER HA;CYRILLIC SMALL LETTER TSE",
    "447 CYRILLIC SMALL LETTER CHE;CYRILLIC SMALL LETTER SHA;CYRILLIC SMALL LETTER SHCHA",
    "44a CYRILLIC SMALL LETTER HARD SIGN;CYRILLIC SMALL LETTER YERU",
    "44c CYRILLIC SMALL LETTER SOFT SIGN;CYRILLIC SMALL LETTER E;CYRILLIC SMALL LETTER YU",
    "44f CYRILLIC SMALL LETTER YA;CYRILLIC SMALL LETTER IE WITH GRAVE;CYRILLIC SMALL LETTER IO",
    "452 CYRILLIC SMALL LETTER DJE;CYRILLIC SMALL LETTER GJE;CYRILLIC SMALL LETTER UKRAINIAN IE",
    "455 CYRILLIC SMALL LETTER DZE;CYRILLIC SMALL LETTER BYELORUSSIAN-UKRAINIAN I",
    "457 CYRILLIC SMALL LETTER YI;CYRILLIC SMALL LETTER JE;CYRILLIC SMALL LETTER LJE",
    "45a CYRILLIC SMALL LETTER NJE;CYRILLIC SMALL LETTER TSHE;CYRILLIC SMALL LETTER KJE",
    "45d CYRILLIC SMALL LETTER I WITH GRAVE;CYRILLIC SMALL LETTER SHORT U",
    "45f CYRILLIC SMALL LETTER DZHE;CYRILLIC CAPITAL LETTER OMEGA;CYRILLIC SMALL LETTER OMEGA",
    "462 CYRILLIC CAPITAL LETTER YAT;CYRILLIC SMALL LETTER YAT",
    "464 CYRILLIC CAPITAL LETTER IOTIFIED E;CYRILLIC SMALL LETTER IOTIFIED E",
    "466 CYRILLIC CAPITAL LETTER LITTLE YUS;CYRILLIC SMALL LETTER LITTLE YUS",
    "468 CYRILLIC CAPITAL LETTER IOTIFIED LITTLE YUS;CYRILLIC SMALL LETTER IOTIFIED LITTLE YUS",
    "46a CYRILLIC CAPITAL LETTER BIG YUS;CYRILLIC SMALL LETTER BIG YUS",
    "46c CYRILLIC CAPITAL LETTER IOTIFIED BIG YUS;CYRILLIC SMALL LETTER IOTIFIED BIG YUS",
    "46e CYRILLIC CAPITAL LETTER KSI;CYRILLIC SMALL LETTER KSI;CYRILLIC CAPITAL LETTER PSI",
    "471 CYRILLIC SMALL LETTER PSI;CYRILLIC CAPITAL LETTER FITA;CYRILLIC SMALL LETTER FITA",
    "474 CYRILLIC CAPITAL LETTER IZHITSA;CYRILLIC SMALL LETTER IZHITSA",
    "476 CYRILLIC CAPITAL LETTER IZHITSA WITH DOUBLE GRAVE ACCENT",
    "477 CYRILLIC SMALL LETTER IZHITSA WITH DOUBLE GRAVE ACCENT;CYRILLIC CAPITAL LETTER UK",
    "479 CYRILLIC SMALL LETTER UK;CYRILLIC CAPITAL LETTER ROUND OMEGA",
    "47b CYRILLIC SMALL LETTER ROUND OMEGA;CYRILLIC CAPITAL LETTER OMEGA WITH TITLO",
    "47d CYRILLIC SMALL LETTER OMEGA WITH TITLO;CYRILLIC CAPITAL LETTER OT",
    "47f CYRILLIC SMALL LETTER OT;CYRILLIC CAPITAL LETTER KOPPA;CYRILLIC SMALL LETTER KOPPA",
    "482 CYRILLIC THOUSANDS SIGN;COMBINING CYRILLIC TITLO;COMBINING CYRILLIC PALATALIZATION",
    "485 COMBINING CYRILLIC DASIA PNEUMATA;COMBINING CYRILLIC PSILI PNEUMATA",
    "487 COMBINING CYRILLIC POKRYTIE;COMBINING CYRILLIC HUNDRED THOUSANDS SIGN",
    "489 COMBINING CYRILLIC MILLIONS SIGN;CYRILLIC CAPITAL LETTER SHORT I WITH TAIL",
    "48b CYRILLIC SMALL LETTER SHORT I WITH TAIL;CYRILLIC CAPITAL LETTER SEMISOFT SIGN",
    "48d CYRILLIC SMALL LETTER SEMISOFT SIGN;CYRILLIC CAPITAL LETTER ER WITH TICK",
    "48f CYRILLIC SMALL LETTER ER WITH TICK;CYRILLIC CAPITAL LETTER GHE WITH UPTURN",
    "491 CYRILLIC SMALL LETTER GHE WITH UPTURN;CYRILLIC CAPITAL LETTER GHE WITH STROKE",
    "493 CYRILLIC SMALL LETTER GHE WITH STROKE;CYRILLIC CAPITAL LETTER GHE WITH MIDDLE HOOK",
    "495 CYRILLIC SMALL LETTER GHE WITH MIDDLE HOOK;CYRILLIC CAPITAL LETTER ZHE WITH DESCENDER",
    "497 CYRILLIC SMALL LETTER ZHE WITH DESCENDER;CYRILLIC CAPITAL LETTER ZE WITH DESCENDER",
    "499 CYRILLIC SMALL LETTER ZE WITH DESCENDER;CYRILLIC CAPITAL LETTER KA WITH DESCENDER",
    "49b CYRILLIC SMALL LETTER KA WITH DESCENDER",
    "49c CYRILLIC CAPITAL LETTER KA WITH VERTICAL STROKE",
    "49d CYRILLIC SMALL LETTER KA WITH VERTICAL STROKE;CYRILLIC CAPITAL LETTER KA WITH STROKE",
    "49f CYRILLIC SMALL LETTER KA WITH STROKE;CYRILLIC CAPITAL LETTER BASHKIR KA",
    "4a1 CYRILLIC SMALL LETTER BASHKIR KA;CYRILLIC CAPITAL LETTER EN WITH DESCENDER",
    "4a3 CYRILLIC SMALL LETTER EN WITH DESCENDER;CYRILLIC CAPITAL LIGATURE EN GHE",
    "4a5 CYRILLIC SMALL LIGATURE EN GHE;CYRILLIC CAPITAL LETTER PE WITH MIDDLE HOOK",
    "4a7 CYRILLIC SMALL LETTER PE WITH MIDDLE HOOK;CYRILLIC CAPITAL LETTER ABKHASIAN HA",
    "4a9 CYRILLIC SMALL LETTER ABKHASIAN HA;CYRILLIC CAPITAL LETTER ES WITH DESCENDER",
    "4ab CYRILLIC SMALL LETTER ES WITH DESCENDER;CYRILLIC CAPITAL LETTER TE WITH DESCENDER",
    "4ad CYRILLIC SMALL LETTER TE WITH DESCENDER;CYRILLIC CAPITAL LETTER STRAIGHT U",
    "4af CYRILLIC SMALL LETTER STRAIGHT U;CYRILLIC CAPITAL LETTER STRAIGHT U WITH STROKE",
    "4b1 CYRILLIC SMALL LETTER STRAIGHT U WITH STROKE;CYRILLIC CAPITAL LETTER HA WITH DESCENDER",
    "4b3 CYRILLIC SMALL LETTER HA WITH DESCENDER;CYRILLIC CAPITAL LIGATURE TE TSE",
    "4b5 CYRILLIC SMALL LIGATURE TE TSE;CYRILLIC CAPITAL LETTER CHE WITH DESCENDER",
    "4b7 CYRILLIC SMALL LETTER CHE WITH DESCENDER",
    "4b8 CYRILLIC CAPITAL LETTER CHE WITH VERTICAL STROKE",
    "4b9 CYRILLIC SMALL LETTER CHE WITH VERTICAL STROKE;CYRILLIC CAPITAL LETTER SHHA",
    "4bb CYRILLIC SMALL LETTER SHHA;CYRILLIC CAPITAL LETTER ABKHASIAN CHE",
    "4bd CYRILLIC SMALL LETTER ABKHASIAN CHE",
    "4be CYRILLIC CAPITAL LETTER ABKHASIAN CHE WITH DESCENDER",
    "4bf CYRILLIC SMALL LETTER ABKHASIAN CHE WITH DESCENDER;CYRILLIC LETTER PALOCHKA",
    "4c1 CYRILLIC CAPITAL LETTER ZHE WITH BREVE;CYRILLIC SMALL LETTER ZHE WITH BREVE",
    "4c3 CYRILLIC CAPITAL LETTER KA WITH HOOK;CYRILLIC SMALL LETTER KA WITH HOOK",
    "4c5 CYRILLIC CAPITAL LETTER EL WITH TAIL;CYRILLIC SMALL LETTER EL WITH TAIL",
    "4c7 CYRILLIC CAPITAL LETTER EN WITH HOOK;CYRILLIC SMALL LETTER EN WITH HOOK",
    "4c9 CYRILLIC CAPITAL LETTER EN WITH TAIL;CYRILLIC SMALL LETTER EN WITH TAIL",
    "4cb CYRILLIC CAPITAL LETTER KHAKASSIAN CHE;CYRILLIC SMALL LETTER KHAKASSIAN CHE",
    "4cd CYRILLIC CAPITAL LETTER EM WITH TAIL;CYRILLIC SMALL LETTER EM WITH TAIL",
    "4cf CYRILLIC SMALL LETTER PALOCHKA;CYRILLIC CAPITAL LETTER A WITH BREVE",
    "4d1 CYRILLIC SMALL LETTER A WITH BREVE;CYRILLIC CAPITAL LETTER A WITH DIAERESIS"]

/-- The names from U+04D3 to U+0E0C. -/
def letterNamesC : List String :=
  ["4d3 CYRILLIC SMALL LETTER A WITH DIAERESIS;CYRILLIC CAPITAL LIGATURE A IE",
    "4d5 CYRILLIC SMALL LIGATURE A IE;CYRILLIC CAPITAL LETTER IE WITH BREVE",
    "4d7 CYRILLIC SMALL LETTER IE WITH BREVE;CYRILLIC CAPITAL LETTER SCHWA",
    "4d9 CYRILLIC SMALL LETTER SCHWA;CYRILLIC CAPITAL LETTER SCHWA WITH DIAERESIS",
    "4db CYRILLIC SMALL LETTER SCHWA WITH DIAERESIS;CYRILLIC CAPITAL LETTER ZHE WITH DIAERESIS",
    "4dd CYRILLIC SMALL LETTER ZHE WITH DIAERESIS;CYRILLIC CAPITAL LETTER ZE WITH DIAERESIS",
    "4df CYRILLIC SMALL LETTER ZE WITH DIAERESIS;CYRILLIC CAPITAL LETTER ABKHASIAN DZE",
    "4e1 CYRILLIC SMALL LETTER ABKHASIAN DZE;CYRILLIC CAPITAL LETTER I WITH MACRON",
    "4e3 CYRILLIC SMALL LETTER I WITH MACRON;CYRILLIC CAPITAL LETTER I WITH DIAERESIS",
    "4e5 CYRILLIC SMALL LETTER I WITH DIAERESIS;CYRILLIC CAPITAL LETTER O WITH DIAERESIS",
    "4e7 CYRILLIC SMALL LETTER O WITH DIAERESIS;CYRILLIC CAPITAL LETTER BARRED O",
    "4e9 CYRILLIC SMALL LETTER BARRED O;CYRILLIC CAPITAL LETTER BARRED O WITH DIAERESIS",
    "4eb CYRILLIC SMALL LETTER BARRED O WITH DIAERESIS;CYRILLIC CAPITAL LETTER E WITH DIAERESIS",
    "4ed CYRILLIC SMALL LETTER E WITH DIAERESIS;CYRILLIC CAPITAL LETTER U WITH MACRON",
    "4ef CYRILLIC SMALL LETTER U WITH MACRON;CYRILLIC CAPITAL LETTER U WITH DIAERESIS",
    "4f1 CYRILLIC SMALL LETTER U WITH DIAERESIS;CYRILLIC CAPITAL LETTER U WITH DOUBLE ACUTE",
    "4f3 CYRILLIC SMALL LETTER U WITH DOUBLE ACUTE;CYRILLIC CAPITAL LETTER CHE WITH DIAERESIS",
    "4f5 CYRILLIC SMALL LETTER CHE WITH DIAERESIS;CYRILLIC CAPITAL LETTER GHE WITH DESCENDER",
    "4f7 CYRILLIC SMALL LETTER GHE WITH DESCENDER;CYRILLIC CAPITAL LETTER YERU WITH DIAERESIS",
    "4f9 CYRILLIC SMALL LETTER YERU WITH DIAERESIS",
    "4fa CYRILLIC CAPITAL LETTER GHE WITH STROKE AND HOOK",
    "4fb CYRILLIC SMALL LETTER GHE WITH STROKE AND HOOK;CYRILLIC CAPITAL LETTER HA WITH HOOK",
    "4fd CYRILLIC SMALL LETTER HA WITH HOOK;CYRILLIC CAPITAL LETTER HA WITH STROKE",
    "4ff CYRILLIC SMALL LETTER HA WITH STROKE;CYRILLIC CAPITAL LETTER KOMI DE",
    "501 CYRILLIC SMALL LETTER KOMI DE;CYRILLIC CAPITAL LETTER KOMI DJE",
    "503 CYRILLIC SMALL LETTER KOMI DJE;CYRILLIC CAPITAL LETTER KOMI ZJE",
    "505 CYRILLIC SMALL LETTER KOMI ZJE;CYRILLIC CAPITAL LETTER KOMI DZJE",
    "507 CYRILLIC SMALL LETTER KOMI DZJE;CYRILLIC CAPITAL LETTER KOMI LJE",
    "509 CYRILLIC SMALL LETTER KOMI LJE;CYRILLIC CAPITAL LETTER KOMI NJE",
    "50b CYRILLIC SMALL LETTER KOMI NJE;CYRILLIC CAPITAL LETTER KOMI SJE",
    "50d CYRILLIC SMALL LETTER KOMI SJE;CYRILLIC CAPITAL LETTER KOMI TJE",
    "50f CYRILLIC SMALL LETTER KOMI TJE;CYRILLIC CAPITAL LETTER REVERSED ZE",
    "511 CYRILLIC SMALL LETTER REVERSED ZE;CYRILLIC CAPITAL LETTER EL WITH HOOK",
    "513 CYRILLIC SMALL LETTER EL WITH HOOK;CYRILLIC CAPITAL LETTER LHA",
    "515 CYRILLIC SMALL LETTER LHA;CYRILLIC CAPITAL LETTER RHA;CYRILLIC SMALL LETTER RHA",
    "518 CYRILLIC CAPITAL LETTER YAE;CYRILLIC SMALL LETTER YAE;CYRILLIC CAPITAL LETTER QA",
    "51b CYRILLIC SMALL LETTER QA;CYRILLIC CAPITAL LETTER WE;CYRILLIC SMALL LETTER WE",
    "51e CYRILLIC CAPITAL LETTER ALEUT KA;CYRILLIC SMALL LETTER ALEUT KA",
    "520 CYRILLIC CAPITAL LETTER EL WITH MIDDLE HOOK;CYRILLIC SMALL LETTER EL WITH MIDDLE HOOK",
    "522 CYRILLIC CAPITAL LETTER EN WITH MIDDLE HOOK;CYRILLIC SMALL LETTER EN WITH MIDDLE HOOK",
    "524 CYRILLIC CAPITAL LETTER PE WITH DESCENDER;CYRILLIC SMALL LETTER PE WITH DESCENDER",
    "526 CYRILLIC CAPITAL LETTER SHHA WITH DESCENDER;CYRILLIC SMALL LETTER SHHA WITH DESCENDER",
    "528 CYRILLIC CAPITAL LETTER EN WITH LEFT HOOK;CYRILLIC SMALL LETTER EN WITH LEFT HOOK",
    "52a CYRILLIC CAPITAL LETTER DZZHE;CYRILLIC SMALL LETTER DZZHE;CYRILLIC CAPITAL LETTER DCHE",
    "52d CYRILLIC SMALL LETTER DCHE;CYRILLIC CAPITAL LETTER EL WITH DESCENDER",
    "52f CYRILLIC SMALL LETTER EL WITH DESCENDER",
    "531 ARMENIAN CAPITAL LETTER AYB;ARMENIAN CAPITAL LETTER BEN;ARMENIAN CAPITAL LETTER GIM",
    "534 ARMENIAN CAPITAL LETTER DA;ARMENIAN CAPITAL LETTER ECH;ARMENIAN CAPITAL LETTER ZA",
    "537 ARMENIAN CAPITAL LETTER EH;ARMENIAN CAPITAL LETTER ET;ARMENIAN CAPITAL LETTER TO",
    "53a ARMENIAN CAPITAL LETTER ZHE;ARMENIAN CAPITAL LETTER INI;ARMENIAN CAPITAL LETTER LIWN",
    "53d ARMENIAN CAPITAL LETTER XEH;ARMENIAN CAPITAL LETTER CA;ARMENIAN CAPITAL LETTER KEN",
    "540 ARMENIAN CAPITAL LETTER HO;ARMENIAN CAPITAL LETTER JA;ARMENIAN CAPITAL LETTER GHAD",
    "543 ARMENIAN CAPITAL LETTER CHEH;ARMENIAN CAPITAL LETTER MEN;ARMENIAN CAPITAL LETTER YI",
    "546 ARMENIAN CAPITAL LETTER NOW;ARMENIAN CAPITAL LETTER SHA;ARMENIAN CAPITAL LETTER VO",
    "549 ARMENIAN CAPITAL LETTER CHA;ARMENIAN CAPITAL LETTER PEH;ARMENIAN CAPITAL LETTER JHEH",
    "54c ARMENIAN CAPITAL LETTER RA;ARMENIAN CAPITAL LETTER SEH;ARMENIAN CAPITAL LETTER VEW",
    "54f ARMENIAN CAPITAL LETTER TIWN;ARMENIAN CAPITAL LETTER REH;ARMENIAN CAPITAL LETTER CO",
    "552 ARMENIAN CAPITAL LETTER YIWN;ARMENIAN CAPITAL LETTER PIWR;ARMENIAN CAPITAL LETTER KEH",
    "555 ARMENIAN CAPITAL LETTER OH;ARMENIAN CAPITAL LETTER FEH",
    "559 ARMENIAN MODIFIER LETTER LEFT HALF RING;ARMENIAN APOSTROPHE;ARMENIAN EMPHASIS MARK",
    "55c ARMENIAN EXCLAMATION MARK;ARMENIAN COMMA;ARMENIAN QUESTION MARK",
    "55f ARMENIAN ABBREVIATION MARK;ARMENIAN SMALL LETTER TURNED AYB;ARMENIAN SMALL LETTER AYB",
    "562 ARMENIAN SMALL LETTER BEN;ARMENIAN SMALL LETTER GIM;ARMENIAN SMALL LETTER DA",
    "565 ARMENIAN SMALL LETTER ECH;ARMENIAN SMALL LETTER ZA;ARMENIAN SMALL LETTER EH",
    "568 ARMENIAN SMALL LETTER ET;ARMENIAN SMALL LETTER TO;ARMENIAN SMALL LETTER ZHE",
    "56b ARMENIAN SMALL LETTER INI;ARMENIAN SMALL LETTER LIWN;ARMENIAN SMALL LETTER XEH",
    "56e ARMENIAN SMALL LETTER CA;ARMENIAN SMALL LETTER KEN;ARMENIAN SMALL LETTER HO",
    "571 ARMENIAN SMALL LETTER JA;ARMENIAN SMALL LETTER GHAD;ARMENIAN SMALL LETTER CHEH",
    "574 ARMENIAN SMALL LETTER MEN;ARMENIAN SMALL LETTER YI;ARMENIAN SMALL LETTER NOW",
    "577 ARMENIAN SMALL LETTER SHA;ARMENIAN SMALL LETTER VO;ARMENIAN SMALL LETTER CHA",
    "57a ARMENIAN SMALL LETTER PEH;ARMENIAN SMALL LETTER JHEH;ARMENIAN SMALL LETTER RA",
    "57d ARMENIAN SMALL LETTER SEH;ARMENIAN SMALL LETTER VEW;ARMENIAN SMALL LETTER TIWN",
    "580 ARMENIAN SMALL LETTER REH;ARMENIAN SMALL LETTER CO;ARMENIAN SMALL LETTER YIWN",
    "583 ARMENIAN SMALL LETTER PIWR;ARMENIAN SMALL LETTER KEH;ARMENIAN SMALL LETTER OH",
    "586 ARMENIAN SMALL LETTER FEH;ARMENIAN SMALL LIGATURE ECH YIWN",
    "588 ARMENIAN SMALL LETTER YI WITH STROKE;ARMENIAN FULL STOP;ARMENIAN HYPHEN",
    "58d RIGHT-FACING ARMENIAN ETERNITY SIGN;LEFT-FACING ARMENIAN ETERNITY SIGN",
    "58f ARMENIAN DRAM SIGN",
    "591 HEBREW ACCENT ETNAHTA;HEBREW ACCENT SEGOL;HEBREW ACCENT SHALSHELET",
    "594 HEBREW ACCENT ZAQEF QATAN;HEBREW ACCENT ZAQEF GADOL;HEBREW ACCENT TIPEHA",
    "597 HEBREW ACCENT REVIA;HEBREW ACCENT ZARQA;HEBREW ACCENT PASHTA;HEBREW ACCENT YETIV",
    "59b HEBREW ACCENT TEVIR;HEBREW ACCENT GERESH;HEBREW ACCENT GERESH MUQDAM",
    "59e HEBREW ACCENT GERSHAYIM;HEBREW ACCENT QARNEY PARA;HEBREW ACCENT TELISHA GEDOLA",
    "5a1 HEBREW ACCENT PAZER;HEBREW ACCENT ATNAH HAFUKH;HEBREW ACCENT MUNAH",
    "5a4 HEBREW ACCENT MAHAPAKH;HEBREW ACCENT MERKHA;HEBREW ACCENT MERKHA KEFULA",
    "5a7 HEBREW ACCENT DARGA;HEBREW ACCENT QADMA;HEBREW ACCENT TELISHA QETANA",
    "5aa HEBREW ACCENT YERAH BEN YOMO;HEBREW ACCENT OLE;HEBREW ACCENT ILUY;HEBREW ACCENT DEHI",
    "5ae HEBREW ACCENT ZINOR;HEBREW MARK MASORA CIRCLE;HEBREW POINT SHEVA",
    "5b1 HEBREW POINT HATAF SEGOL;HEBREW POINT HATAF PATAH;HEBREW POINT HATAF QAMATS",
    "5b4 HEBREW POINT HIRIQ;HEBREW POINT TSERE;HEBREW POINT SEGOL;HEBREW POINT PATAH",
    "5b8 HEBREW POINT QAMATS;HEBREW POINT HOLAM;HEBREW POINT HOLAM HASER FOR VAV",
    "5bb HEBREW POINT QUBUTS;HEBREW POINT DAGESH OR MAPIQ;HEBREW POINT METEG",
    "5be HEBREW PUNCTUATION MAQAF;HEBREW POINT RAFE;HEBREW PUNCTUATION PASEQ",
    "5c1 HEBREW POINT SHIN DOT;HEBREW POINT SIN DOT;HEBREW PUNCTUATION SOF PASUQ",
    "5c4 HEBREW MARK UPPER DOT;HEBREW MARK LOWER DOT;HEBREW PUNCTUATION NUN HAFUKHA",
    "5c7 HEBREW POINT QAMATS QATAN",
    "5d0 HEBREW LETTER ALEF;HEBREW LETTER BET;HEBREW LETTER GIMEL;HEBREW LETTER DALET",
    "5d4 HEBREW LETTER HE;HEBREW LETTER VAV;HEBREW LETTER ZAYIN;HEBREW LETTER HET",
    "5d8 HEBREW LETTER TET;HEBREW LETTER YOD;HEBREW LETTER FINAL KAF;HEBREW LETTER KAF",
    "5dc HEBREW LETTER LAMED;HEBREW LETTER FINAL MEM;HEBREW LETTER MEM;HEBREW LETTER FINAL NUN",
    "5e0 HEBREW LETTER NUN;HEBREW LETTER SAMEKH;HEBREW LETTER AYIN;HEBREW LETTER FINAL PE",
    "5e4 HEBREW LETTER PE;HEBREW LETTER FINAL TSADI;HEBREW LETTER TSADI;HEBREW LETTER QOF",
    "5e8 HEBREW LETTER RESH;HEBREW LETTER SHIN;HEBREW LETTER TAV",
    "5ef HEBREW YOD TRIANGLE;HEBREW LIGATURE YIDDISH DOUBLE VAV;HEBREW LIGATURE YIDDISH VAV YOD",
    "5f2 HEBREW LIGATURE YIDDISH DOUBLE YOD;HEBREW PUNCTUATION GERESH",
    "5f4 HEBREW PUNCTUATION GERSHAYIM",
    "600 ARABIC NUMBER SIGN;ARABIC SIGN SANAH;ARABIC FOOTNOTE MARKER;ARABIC SIGN SAFHA",
    "604 ARABIC SIGN SAMVAT;ARABIC NUMBER MARK ABOVE;ARABIC-INDIC CUBE ROOT",
    "607 ARABIC-INDIC FOURTH ROOT;ARABIC RAY;ARABIC-INDIC PER MILLE SIGN",
    "60a ARABIC-INDIC PER TEN THOUSAND SIGN;AFGHANI SIGN;ARABIC COMMA;ARABIC DATE SEPARATOR",
    "60e ARABIC POETIC VERSE SIGN;ARABIC SIGN MISRA;ARABIC SIGN SALLALLAHOU ALAYHE WASSALLAM",
    "611 ARABIC SIGN ALAYHE ASSALLAM;ARABIC SIGN RAHMATULLAH ALAYHE",
    "613 ARABIC SIGN RADI ALLAHOU ANHU;ARABIC SIGN TAKHALLUS;ARABIC SMALL HIGH TAH",
    "616 ARABIC SMALL HIGH LIGATURE ALEF WITH LAM WITH YEH;ARABIC SMALL HIGH ZAIN",
    "618 ARABIC SMALL FATHA;ARABIC SMALL DAMMA;ARABIC SMALL KASRA;ARABIC SEMICOLON",
    "61c ARABIC LETTER MARK;ARABIC END OF TEXT MARK;ARABIC TRIPLE DOT PUNCTUATION MARK",
    "61f ARABIC QUESTION MARK;ARABIC LETTER KASHMIRI YEH;ARABIC LETTER HAMZA",
    "622 ARABIC LETTER ALEF WITH MADDA ABOVE;ARABIC LETTER ALEF WITH HAMZA ABOVE",
    "624 ARABIC LETTER WAW WITH HAMZA ABOVE;ARABIC LETTER ALEF WITH HAMZA BELOW",
    "626 ARABIC LETTER YEH WITH HAMZA ABOVE;ARABIC LETTER ALEF;ARABIC LETTER BEH",
    "629 ARABIC LETTER TEH MARBUTA;ARABIC LETTER TEH;ARABIC LETTER THEH;ARABIC LETTER JEEM",
    "62d ARABIC LETTER HAH;ARABIC LETTER KHAH;ARABIC LETTER DAL;ARABIC LETTER THAL",
    "631 ARABIC LETTER REH;ARABIC LETTER ZAIN;ARABIC LETTER SEEN;ARABIC LETTER SHEEN",
    "635 ARABIC LETTER SAD;ARABIC LETTER DAD;ARABIC LETTER TAH;ARABIC LETTER ZAH",
    "639 ARABIC LETTER AIN;ARABIC LETTER GHAIN;ARABIC LETTER KEHEH WITH TWO DOTS ABOVE",
    "63c ARABIC LETTER KEHEH WITH THREE DOTS BELOW;ARABIC LETTER FARSI YEH WITH INVERTED V",
    "63e ARABIC LETTER FARSI YEH WITH TWO DOTS ABOVE",
    "63f ARABIC LETTER FARSI YEH WITH THREE DOTS ABOVE;ARABIC TATWEEL;ARABIC LETTER FEH",
    "642 ARABIC LETTER QAF;ARABIC LETTER KAF;ARABIC LETTER LAM;ARABIC LETTER MEEM",
    "646 ARABIC LETTER NOON;ARABIC LETTER HEH;ARABIC LETTER WAW;ARABIC LETTER ALEF MAKSURA",
    "64a ARABIC LETTER YEH;ARABIC FATHATAN;ARABIC DAMMATAN;ARABIC KASRATAN;ARABIC FATHA",
    "64f ARABIC DAMMA;ARABIC KASRA;ARABIC SHADDA;ARABIC SUKUN;ARABIC MADDAH ABOVE",
    "654 ARABIC HAMZA ABOVE;ARABIC HAMZA BELOW;ARABIC SUBSCRIPT ALEF;ARABIC INVERTED DAMMA",
    "658 ARABIC MARK NOON GHUNNA;ARABIC ZWARAKAY;ARABIC VOWEL SIGN SMALL V ABOVE",
    "65b ARABIC VOWEL SIGN INVERTED SMALL V ABOVE;ARABIC VOWEL SIGN DOT BELOW",
    "65d ARABIC REVERSED DAMMA;ARABIC FATHA WITH TWO DOTS;ARABIC WAVY HAMZA BELOW",
    "660 ARABIC-INDIC DIGIT ZERO;ARABIC-INDIC DIGIT ONE;ARABIC-INDIC DIGIT TWO",
    "663 ARABIC-INDIC DIGIT THREE;ARABIC-INDIC DIGIT FOUR;ARABIC-INDIC DIGIT FIVE",
    "666 ARABIC-INDIC DIGIT SIX;ARABIC-INDIC DIGIT SEVEN;ARABIC-INDIC DIGIT EIGHT",
    "669 ARABIC-INDIC DIGIT NINE;ARABIC PERCENT SIGN;ARABIC DECIMAL SEPARATOR",
    "66c ARABIC THOUSANDS SEPARATOR;ARABIC FIVE POINTED STAR;ARABIC LETTER DOTLESS BEH",
    "66f ARABIC LETTER DOTLESS QAF;ARABIC LETTER SUPERSCRIPT ALEF;ARABIC LETTER ALEF WASLA",
    "672 ARABIC LETTER ALEF WITH WAVY HAMZA ABOVE;ARABIC LETTER ALEF WITH WAVY HAMZA BELOW",
    "674 ARABIC LETTER HIGH HAMZA;ARABIC LETTER HIGH HAMZA ALEF;ARABIC LETTER HIGH HAMZA WAW",
    "677 ARABIC LETTER U WITH HAMZA ABOVE;ARABIC LETTER HIGH HAMZA YEH;ARABIC LETTER TTEH",
    "67a ARABIC LETTER TTEHEH;ARABIC LETTER BEEH;ARABIC LETTER TEH WITH RING",
    "67d ARABIC LETTER TEH WITH THREE DOTS ABOVE DOWNWARDS;ARABIC LETTER PEH",
    "67f ARABIC LETTER TEHEH;ARABIC LETTER BEHEH;ARABIC LETTER HAH WITH HAMZA ABOVE",
    "682 ARABIC LETTER HAH WITH TWO DOTS VERTICAL ABOVE;ARABIC LETTER NYEH;ARABIC LETTER DYEH",
    "685 ARABIC LETTER HAH WITH THREE DOTS ABOVE;ARABIC LETTER TCHEH;ARABIC LETTER TCHEHEH",
    "688 ARABIC LETTER DDAL;ARABIC LETTER DAL WITH RING;ARABIC LETTER DAL WITH DOT BELOW",
    "68b ARABIC LETTER DAL WITH DOT BELOW AND SMALL TAH;ARABIC LETTER DAHAL",
    "68d ARABIC LETTER DDAHAL;ARABIC LETTER DUL",
    "68f ARABIC LETTER DAL WITH THREE DOTS ABOVE DOWNWARDS",
    "690 ARABIC LETTER DAL WITH FOUR DOTS ABOVE;ARABIC LETTER RREH",
    "692 ARABIC LETTER REH WITH SMALL V;ARABIC LETTER REH WITH RING",
    "694 ARABIC LETTER REH WITH DOT BELOW;ARABIC LETTER REH WITH SMALL V BELOW",
    "696 ARABIC LETTER REH WITH DOT BELOW AND DOT ABOVE;ARABIC LETTER REH WITH TWO DOTS ABOVE",
    "698 ARABIC LETTER JEH;ARABIC LETTER REH WITH FOUR DOTS ABOVE",
    "69a ARABIC LETTER SEEN WITH DOT BELOW AND DOT ABOVE",
    "69b ARABIC LETTER SEEN WITH THREE DOTS BELOW",
    "69c ARABIC LETTER SEEN WITH THREE DOTS BELOW AND THREE DOTS ABOVE",
    "69d ARABIC LETTER SAD WITH TWO DOTS BELOW;ARABIC LETTER SAD WITH THREE DOTS ABOVE",
    "69f ARABIC LETTER TAH WITH THREE DOTS ABOVE;ARABIC LETTER AIN WITH THREE DOTS ABOVE",
    "6a1 ARABIC LETTER DOTLESS FEH;ARABIC LETTER FEH WITH DOT MOVED BELOW",
    "6a3 ARABIC LETTER FEH WITH DOT BELOW;ARABIC LETTER VEH",
    "6a5 ARABIC LETTER FEH WITH THREE DOTS BELOW;ARABIC LETTER PEHEH",
    "6a7 ARABIC LETTER QAF WITH DOT ABOVE;ARABIC LETTER QAF WITH THREE DOTS ABOVE",
    "6a9 ARABIC LETTER KEHEH;ARABIC LETTER SWASH KAF;ARABIC LETTER KAF WITH RING",
    "6ac ARABIC LETTER KAF WITH DOT ABOVE;ARABIC LETTER NG",
    "6ae ARABIC LETTER KAF WITH THREE DOTS BELOW;ARABIC LETTER GAF;ARABIC LETTER GAF WITH RING",
    "6b1 ARABIC LETTER NGOEH;ARABIC LETTER GAF WITH TWO DOTS BELOW;ARABIC LETTER GUEH",
    "6b4 ARABIC LETTER GAF WITH THREE DOTS ABOVE;ARABIC LETTER LAM WITH SMALL V",
    "6b6 ARABIC LETTER LAM WITH DOT ABOVE;ARABIC LETTER LAM WITH THREE DOTS ABOVE",
    "6b8 ARABIC LETTER LAM WITH THREE DOTS BELOW;ARABIC LETTER NOON WITH DOT BELOW",
    "6ba ARABIC LETTER NOON GHUNNA;ARABIC LETTER RNOON;ARABIC LETTER NOON WITH RING",
    "6bd ARABIC LETTER NOON WITH THREE DOTS ABOVE;ARABIC LETTER HEH DOACHASHMEE",
    "6bf ARABIC LETTER TCHEH WITH DOT ABOVE;ARABIC LETTER HEH WITH YEH ABOVE",
    "6c1 ARABIC LETTER HEH GOAL;ARABIC LETTER HEH GOAL WITH HAMZA ABOVE",
    "6c3 ARABIC LETTER TEH MARBUTA GOAL;ARABIC LETTER WAW WITH RING;ARABIC LETTER KIRGHIZ OE",
    "6c6 ARABIC LETTER OE;ARABIC LETTER U;ARABIC LETTER YU;ARABIC LETTER KIRGHIZ YU",
    "6ca ARABIC LETTER WAW WITH TWO DOTS ABOVE;ARABIC LETTER VE;ARABIC LETTER FARSI YEH",
    "6cd ARABIC LETTER YEH WITH TAIL;ARABIC LETTER YEH WITH SMALL V",
    "6cf ARABIC LETTER WAW WITH DOT ABOVE;ARABIC LETTER E",
    "6d1 ARABIC LETTER YEH WITH THREE DOTS BELOW;ARABIC LETTER YEH BARREE",
    "6d3 ARABIC LETTER YEH BARREE WITH HAMZA ABOVE;ARABIC FULL STOP;ARABIC LETTER AE",
    "6d6 ARABIC SMALL HIGH LIGATURE SAD WITH LAM WITH ALEF MAKSURA",
    "6d7 ARABIC SMALL HIGH LIGATURE QAF WITH LAM WITH ALEF MAKSURA",
    "6d8 ARABIC SMALL HIGH MEEM INITIAL FORM;ARABIC SMALL HIGH LAM ALEF;ARABIC SMALL HIGH JEEM",
    "6db ARABIC SMALL HIGH THREE DOTS;ARABIC SMALL HIGH SEEN;ARABIC END OF AYAH",
    "6de ARABIC START OF RUB EL HIZB;ARABIC SMALL HIGH ROUNDED ZERO",
    "6e0 ARABIC SMALL HIGH UPRIGHT RECTANGULAR ZERO;ARABIC SMALL HIGH DOTLESS HEAD OF KHAH",
    "6e2 ARABIC SMALL HIGH MEEM ISOLATED FORM;ARABIC SMALL LOW SEEN;ARABIC SMALL HIGH MADDA",
    "6e5 ARABIC SMALL WAW;ARABIC SMALL YEH;ARABIC SMALL HIGH YEH;ARABIC SMALL HIGH NOON",
    "6e9 ARABIC PLACE OF SAJDAH;ARABIC EMPTY CENTRE LOW STOP;ARABIC EMPTY CENTRE HIGH STOP",
    "6ec ARABIC ROUNDED HIGH STOP WITH FILLED CENTRE;ARABIC SMALL LOW MEEM",
    "6ee ARABIC LETTER DAL WITH INVERTED V;ARABIC LETTER REH WITH INVERTED V",
    "6f0 EXTENDED ARABIC-INDIC DIGIT ZERO;EXTENDED ARABIC-INDIC DIGIT ONE",
    "6f2 EXTENDED ARABIC-INDIC DIGIT TWO;EXTENDED ARABIC-INDIC DIGIT THREE",
    "6f4 EXTENDED ARABIC-INDIC DIGIT FOUR;EXTENDED ARABIC-INDIC DIGIT FIVE",
    "6f6 EXTENDED ARABIC-INDIC DIGIT SIX;EXTENDED ARABIC-INDIC DIGIT SEVEN",
    "6f8 EXTENDED ARABIC-INDIC DIGIT EIGHT;EXTENDED ARABIC-INDIC DIGIT NINE",
    "6fa ARABIC LETTER SHEEN WITH DOT BELOW;ARABIC LETTER DAD WITH DOT BELOW",
    "6fc ARABIC LETTER GHAIN WITH DOT BELOW;ARABIC SIGN SINDHI AMPERSAND",
    "6fe ARABIC SIGN SINDHI POSTPOSITION MEN;ARABIC LETTER HEH WITH INVERTED V",
    "900 DEVANAGARI SIGN INVERTED CANDRABINDU;DEVANAGARI SIGN CANDRABINDU",
    "902 DEVANAGARI SIGN ANUSVARA;DEVANAGARI SIGN VISARGA;DEVANAGARI LETTER SHORT A",
    "905 DEVANAGARI LETTER A;DEVANAGARI LETTER AA;DEVANAGARI LETTER I;DEVANAGARI LETTER II",
    "909 DEVANAGARI LETTER U;DEVANAGARI LETTER UU;DEVANAGARI LETTER VOCALIC R",
    "90c DEVANAGARI LETTER VOCALIC L;DEVANAGARI LETTER CANDRA E;DEVANAGARI LETTER SHORT E",
    "90f DEVANAGARI LETTER E;DEVANAGARI LETTER AI;DEVANAGARI LETTER CANDRA O",
    "912 DEVANAGARI LETTER SHORT O;DEVANAGARI LETTER O;DEVANAGARI LETTER AU",
    "915 DEVANAGARI LETTER KA;DEVANAGARI LETTER KHA;DEVANAGARI LETTER GA;DEVANAGARI LETTER GHA",
    "919 DEVANAGARI LETTER NGA;DEVANAGARI LETTER CA;DEVANAGARI LETTER CHA;DEVANAGARI LETTER JA",
    "91d DEVANAGARI LETTER JHA;DEVANAGARI LETTER NYA;DEVANAGARI LETTER TTA",
    "920 DEVANAGARI LETTER TTHA;DEVANAGARI LETTER DDA;DEVANAGARI LETTER DDHA",
    "923 DEVANAGARI LETTER NNA;DEVANAGARI LETTER TA;DEVANAGARI LETTER THA;DEVANAGARI LETTER DA",
    "927 DEVANAGARI LETTER DHA;DEVANAGARI LETTER NA;DEVANAGARI LETTER NNNA;DEVANAGARI LETTER PA",
    "92b DEVANAGARI LETTER PHA;DEVANAGARI LETTER BA;DEVANAGARI LETTER BHA;DEVANAGARI LETTER MA",
    "92f DEVANAGARI LETTER YA;DEVANAGARI LETTER RA;DEVANAGARI LETTER RRA;DEVANAGARI LETTER LA",
    "933 DEVANAGARI LETTER LLA;DEVANAGARI LETTER LLLA;DEVANAGARI LETTER VA",
    "936 DEVANAGARI LETTER SHA;DEVANAGARI LETTER SSA;DEVANAGARI LETTER SA;DEVANAGARI LETTER HA",
    "93a DEVANAGARI VOWEL SIGN OE;DEVANAGARI VOWEL SIGN OOE;DEVANAGARI SIGN NUKTA",
    "93d DEVANAGARI SIGN AVAGRAHA;DEVANAGARI VOWEL SIGN AA;DEVANAGARI VOWEL SIGN I",
    "940 DEVANAGARI VOWEL SIGN II;DEVANAGARI VOWEL SIGN U;DEVANAGARI VOWEL SIGN UU",
    "943 DEVANAGARI VOWEL SIGN VOCALIC R;DEVANAGARI VOWEL SIGN VOCALIC RR",
    "945 DEVANAGARI VOWEL SIGN CANDRA E;DEVANAGARI VOWEL SIGN SHORT E;DEVANAGARI VOWEL SIGN E",
    "948 DEVANAGARI VOWEL SIGN AI;DEVANAGARI VOWEL SIGN CANDRA O;DEVANAGARI VOWEL SIGN SHORT O",
    "94b DEVANAGARI VOWEL SIGN O;DEVANAGARI VOWEL SIGN AU;DEVANAGARI SIGN VIRAMA",
    "94e DEVANAGARI VOWEL SIGN PRISHTHAMATRA E;DEVANAGARI VOWEL SIGN AW;DEVANAGARI OM",
    "951 DEVANAGARI STRESS SIGN UDATTA;DEVANAGARI STRESS SIGN ANUDATTA;DEVANAGARI GRAVE ACCENT",
    "954 DEVANAGARI ACUTE ACCENT;DEVANAGARI VOWEL SIGN CANDRA LONG E;DEVANAGARI VOWEL SIGN UE",
    "957 DEVANAGARI VOWEL SIGN UUE;DEVANAGARI LETTER QA;DEVANAGARI LETTER KHHA",
    "95a DEVANAGARI LETTER GHHA;DEVANAGARI LETTER ZA;DEVANAGARI LETTER DDDHA",
    "95d DEVANAGARI LETTER RHA;DEVANAGARI LETTER FA;DEVANAGARI LETTER YYA",
    "960 DEVANAGARI LETTER VOCALIC RR;DEVANAGARI LETTER VOCALIC LL",
    "962 DEVANAGARI VOWEL SIGN VOCALIC L;DEVANAGARI VOWEL SIGN VOCALIC LL;DEVANAGARI DANDA",
    "965 DEVANAGARI DOUBLE DANDA;DEVANAGARI DIGIT ZERO;DEVANAGARI DIGIT ONE",
    "968 DEVANAGARI DIGIT TWO;DEVANAGARI DIGIT THREE;DEVANAGARI DIGIT FOUR",
    "96b DEVANAGARI DIGIT FIVE;DEVANAGARI DIGIT SIX;DEVANAGARI DIGIT SEVEN",
    "96e DEVANAGARI DIGIT EIGHT;DEVANAGARI DIGIT NINE;DEVANAGARI ABBREVIATION SIGN",
    "971 DEVANAGARI SIGN HIGH SPACING DOT;DEVANAGARI LETTER CANDRA A;DEVANAGARI LETTER OE",
    "974 DEVANAGARI LETTER OOE;DEVANAGARI LETTER AW;DEVANAGARI LETTER UE;DEVANAGARI LETTER UUE",
    "978 DEVANAGARI LETTER MARWARI DDA;DEVANAGARI LETTER ZHA;DEVANAGARI LETTER HEAVY YA",
    "97b DEVANAGARI LETTER GGA;DEVANAGARI LETTER JJA;DEVANAGARI LETTER GLOTTAL STOP",
    "97e DEVANAGARI LETTER DDDA;DEVANAGARI LETTER BBA",
    "e01 THAI CHARACTER KO KAI;THAI CHARACTER KHO KHAI;THAI CHARACTER KHO KHUAT",
    "e04 THAI CHARACTER KHO KHWAI;THAI CHARACTER KHO KHON;THAI CHARACTER KHO RAKHANG",
    "e07 THAI CHARACTER NGO NGU;THAI CHARACTER CHO CHAN;THAI CHARACTER CHO CHING",
    "e0a THAI CHARACTER CHO CHANG;THAI CHARACTER SO SO;THAI CHARACTER CHO CHOE"]

/-- The names from U+0E0D to U+1E80. -/
def letterNamesD : List String :=
  ["e0d THAI CHARACTER YO YING;THAI CHARACTER DO CHADA;THAI CHARACTER TO PATAK",
    "e10 THAI CHARACTER THO THAN;THAI CHARACTER THO NANGMONTHO;THAI CHARACTER THO PHUTHAO",
    "e13 THAI CHARACTER NO NEN;THAI CHARACTER DO DEK;THAI CHARACTER TO TAO",
    "e16 THAI CHARACTER THO THUNG;THAI CHARACTER THO THAHAN;THAI CHARACTER THO THONG",
    "e19 THAI CHARACTER NO NU;THAI CHARACTER BO BAIMAI;THAI CHARACTER PO PLA",
    "e1c THAI CHARACTER PHO PHUNG;THAI CHARACTER FO FA;THAI CHARACTER PHO PHAN",
    "e1f THAI CHARACTER FO FAN;THAI CHARACTER PHO SAMPHAO;THAI CHARACTER MO MA",
    "e22 THAI CHARACTER YO YAK;THAI CHARACTER RO RUA;THAI CHARACTER RU;THAI CHARACTER LO LING",
    "e26 THAI CHARACTER LU;THAI CHARACTER WO WAEN;THAI CHARACTER SO SALA;THAI CHARACTER SO RUSI",
    "e2a THAI CHARACTER SO SUA;THAI CHARACTER HO HIP;THAI CHARACTER LO CHULA",
    "e2d THAI CHARACTER O ANG;THAI CHARACTER HO NOKHUK;THAI CHARACTER PAIYANNOI",
    "e30 THAI CHARACTER SARA A;THAI CHARACTER MAI HAN-AKAT;THAI CHARACTER SARA AA",
    "e33 THAI CHARACTER SARA AM;THAI CHARACTER SARA I;THAI CHARACTER SARA II",
    "e36 THAI CHARACTER SARA UE;THAI CHARACTER SARA UEE;THAI CHARACTER SARA U",
    "e39 THAI CHARACTER SARA UU;THAI CHARACTER PHINTHU",
    "e3f THAI CURRENCY SYMBOL BAHT;THAI CHARACTER SARA E;THAI CHARACTER SARA AE",
    "e42 THAI CHARACTER SARA O;THAI CHARACTER SARA AI MAIMUAN;THAI CHARACTER SARA AI MAIMALAI",
    "e45 THAI CHARACTER LAKKHANGYAO;THAI CHARACTER MAIYAMOK;THAI CHARACTER MAITAIKHU",
    "e48 THAI CHARACTER MAI EK;THAI CHARACTER MAI THO;THAI CHARACTER MAI TRI",
    "e4b THAI CHARACTER MAI CHATTAWA;THAI CHARACTER THANTHAKHAT;THAI CHARACTER NIKHAHIT",
    "e4e THAI CHARACTER YAMAKKAN;THAI CHARACTER FONGMAN;THAI DIGIT ZERO;THAI DIGIT ONE",
    "e52 THAI DIGIT TWO;THAI DIGIT THREE;THAI DIGIT FOUR;THAI DIGIT FIVE;THAI DIGIT SIX",
    "e57 THAI DIGIT SEVEN;THAI DIGIT EIGHT;THAI DIGIT NINE;THAI CHARACTER ANGKHANKHU",
    "e5b THAI CHARACTER KHOMUT",
    "10a0 GEORGIAN CAPITAL LETTER AN;GEORGIAN CAPITAL LETTER BAN;GEORGIAN CAPITAL LETTER GAN",
    "10a3 GEORGIAN CAPITAL LETTER DON;GEORGIAN CAPITAL LETTER EN;GEORGIAN CAPITAL LETTER VIN",
    "10a6 GEORGIAN CAPITAL LETTER ZEN;GEORGIAN CAPITAL LETTER TAN;GEORGIAN CAPITAL LETTER IN",
    "10a9 GEORGIAN CAPITAL LETTER KAN;GEORGIAN CAPITAL LETTER LAS;GEORGIAN CAPITAL LETTER MAN",
    "10ac GEORGIAN CAPITAL LETTER NAR;GEORGIAN CAPITAL LETTER ON;GEORGIAN CAPITAL LETTER PAR",
    "10af GEORGIAN CAPITAL LETTER ZHAR;GEORGIAN CAPITAL LETTER RAE;GEORGIAN CAPITAL LETTER SAN",
    "10b2 GEORGIAN CAPITAL LETTER TAR;GEORGIAN CAPITAL LETTER UN;GEORGIAN CAPITAL LETTER PHAR",
    "10b5 GEORGIAN CAPITAL LETTER KHAR;GEORGIAN CAPITAL LETTER GHAN;GEORGIAN CAPITAL LETTER QAR",
    "10b8 GEORGIAN CAPITAL LETTER SHIN;GEORGIAN CAPITAL LETTER CHIN;GEORGIAN CAPITAL LETTER CAN",
    "10bb GEORGIAN CAPITAL LETTER JIL;GEORGIAN CAPITAL LETTER CIL;GEORGIAN CAPITAL LETTER CHAR",
    "10be GEORGIAN CAPITAL LETTER XAN;GEORGIAN CAPITAL LETTER JHAN;GEORGIAN CAPITAL LETTER HAE",
    "10c1 GEORGIAN CAPITAL LETTER HE;GEORGIAN CAPITAL LETTER HIE;GEORGIAN CAPITAL LETTER WE",
    "10c4 GEORGIAN CAPITAL LETTER HAR;GEORGIAN CAPITAL LETTER HOE",
    "10c7 GEORGIAN CAPITAL LETTER YN",
    "10cd GEORGIAN CAPITAL LETTER AEN",
    "10d0 GEORGIAN LETTER AN;GEORGIAN LETTER BAN;GEORGIAN LETTER GAN;GEORGIAN LETTER DON",
    "10d4 GEORGIAN LETTER EN;GEORGIAN LETTER VIN;GEORGIAN LETTER ZEN;GEORGIAN LETTER TAN",
    "10d8 GEORGIAN LETTER IN;GEORGIAN LETTER KAN;GEORGIAN LETTER LAS;GEORGIAN LETTER MAN",
    "10dc GEORGIAN LETTER NAR;GEORGIAN LETTER ON;GEORGIAN LETTER PAR;GEORGIAN LETTER ZHAR",
    "10e0 GEORGIAN LETTER RAE;GEORGIAN LETTER SAN;GEORGIAN LETTER TAR;GEORGIAN LETTER UN",
    "10e4 GEORGIAN LETTER PHAR;GEORGIAN LETTER KHAR;GEORGIAN LETTER GHAN;GEORGIAN LETTER QAR",
    "10e8 GEORGIAN LETTER SHIN;GEORGIAN LETTER CHIN;GEORGIAN LETTER CAN;GEORGIAN LETTER JIL",
    "10ec GEORGIAN LETTER CIL;GEORGIAN LETTER CHAR;GEORGIAN LETTER XAN;GEORGIAN LETTER JHAN",
    "10f0 GEORGIAN LETTER HAE;GEORGIAN LETTER HE;GEORGIAN LETTER HIE;GEORGIAN LETTER WE",
    "10f4 GEORGIAN LETTER HAR;GEORGIAN LETTER HOE;GEORGIAN LETTER FI;GEORGIAN LETTER YN",
    "10f8 GEORGIAN LETTER ELIFI;GEORGIAN LETTER TURNED GAN;GEORGIAN LETTER AIN",
    "10fb GEORGIAN PARAGRAPH SEPARATOR;MODIFIER LETTER GEORGIAN NAR;GEORGIAN LETTER AEN",
    "10fe GEORGIAN LETTER HARD SIGN;GEORGIAN LETTER LABIAL SIGN",
    "1d00 LATIN LETTER SMALL CAPITAL A;LATIN LETTER SMALL CAPITAL AE",
    "1d02 LATIN SMALL LETTER TURNED AE;LATIN LETTER SMALL CAPITAL BARRED B",
    "1d04 LATIN LETTER SMALL CAPITAL C;LATIN LETTER SMALL CAPITAL D",
    "1d06 LATIN LETTER SMALL CAPITAL ETH;LATIN LETTER SMALL CAPITAL E",
    "1d08 LATIN SMALL LETTER TURNED OPEN E;LATIN SMALL LETTER TURNED I",
    "1d0a LATIN LETTER SMALL CAPITAL J;LATIN LETTER SMALL CAPITAL K",
    "1d0c LATIN LETTER SMALL CAPITAL L WITH STROKE;LATIN LETTER SMALL CAPITAL M",
    "1d0e LATIN LETTER SMALL CAPITAL REVERSED N;LATIN LETTER SMALL CAPITAL O",
    "1d10 LATIN LETTER SMALL CAPITAL OPEN O;LATIN SMALL LETTER SIDEWAYS O",
    "1d12 LATIN SMALL LETTER SIDEWAYS OPEN O;LATIN SMALL LETTER SIDEWAYS O WITH STROKE",
    "1d14 LATIN SMALL LETTER TURNED OE;LATIN LETTER SMALL CAPITAL OU",
    "1d16 LATIN SMALL LETTER TOP HALF O;LATIN SMALL LETTER BOTTOM HALF O",
    "1d18 LATIN LETTER SMALL CAPITAL P;LATIN LETTER SMALL CAPITAL REVERSED R",
    "1d1a LATIN LETTER SMALL CAPITAL TURNED R;LATIN LETTER SMALL CAPITAL T",
    "1d1c LATIN LETTER SMALL CAPITAL U;LATIN SMALL LETTER SIDEWAYS U",
    "1d1e LATIN SMALL LETTER SIDEWAYS DIAERESIZED U;LATIN SMALL LETTER SIDEWAYS TURNED M",
    "1d20 LATIN LETTER SMALL CAPITAL V;LATIN LETTER SMALL CAPITAL W",
    "1d22 LATIN LETTER SMALL CAPITAL Z;LATIN LETTER SMALL CAPITAL EZH",
    "1d24 LATIN LETTER VOICED LARYNGEAL SPIRANT;LATIN LETTER AIN",
    "1d26 GREEK LETTER SMALL CAPITAL GAMMA;GREEK LETTER SMALL CAPITAL LAMDA",
    "1d28 GREEK LETTER SMALL CAPITAL PI;GREEK LETTER SMALL CAPITAL RHO",
    "1d2a GREEK LETTER SMALL CAPITAL PSI;CYRILLIC LETTER SMALL CAPITAL EL",
    "1d2c MODIFIER LETTER CAPITAL A;MODIFIER LETTER CAPITAL AE;MODIFIER LETTER CAPITAL B",
    "1d2f MODIFIER LETTER CAPITAL BARRED B;MODIFIER LETTER CAPITAL D;MODIFIER LETTER CAPITAL E",
    "1d32 MODIFIER LETTER CAPITAL REVERSED E;MODIFIER LETTER CAPITAL G",
    "1d34 MODIFIER LETTER CAPITAL H;MODIFIER LETTER CAPITAL I;MODIFIER LETTER CAPITAL J",
    "1d37 MODIFIER LETTER CAPITAL K;MODIFIER LETTER CAPITAL L;MODIFIER LETTER CAPITAL M",
    "1d3a MODIFIER LETTER CAPITAL N;MODIFIER LETTER CAPITAL REVERSED N",
    "1d3c MODIFIER LETTER CAPITAL O;MODIFIER LETTER CAPITAL OU;MODIFIER LETTER CAPITAL P",
    "1d3f MODIFIER LETTER CAPITAL R;MODIFIER LETTER CAPITAL T;MODIFIER LETTER CAPITAL U",
    "1d42 MODIFIER LETTER CAPITAL W;MODIFIER LETTER SMALL A;MODIFIER LETTER SMALL TURNED A",
    "1d45 MODIFIER LETTER SMALL ALPHA;MODIFIER LETTER SMALL TURNED AE;MODIFIER LETTER SMALL B",
    "1d48 MODIFIER LETTER SMALL D;MODIFIER LETTER SMALL E;MODIFIER LETTER SMALL SCHWA",
    "1d4b MODIFIER LETTER SMALL OPEN E;MODIFIER LETTER SMALL TURNED OPEN E",
    "1d4d MODIFIER LETTER SMALL G;MODIFIER LETTER SMALL TURNED I;MODIFIER LETTER SMALL K",
    "1d50 MODIFIER LETTER SMALL M;MODIFIER LETTER SMALL ENG;MODIFIER LETTER SMALL O",
    "1d53 MODIFIER LETTER SMALL OPEN O;MODIFIER LETTER SMALL TOP HALF O",
    "1d55 MODIFIER LETTER SMALL BOTTOM HALF O;MODIFIER LETTER SMALL P;MODIFIER LETTER SMALL T",
    "1d58 MODIFIER LETTER SMALL U;MODIFIER LETTER SMALL SIDEWAYS U",
    "1d5a MODIFIER LETTER SMALL TURNED M;MODIFIER LETTER SMALL V;MODIFIER LETTER SMALL AIN",
    "1d5d MODIFIER LETTER SMALL BETA;MODIFIER LETTER SMALL GREEK GAMMA",
    "1d5f MODIFIER LETTER SMALL DELTA;MODIFIER LETTER SMALL GREEK PHI;MODIFIER LETTER SMALL CHI",
    "1d62 LATIN SUBSCRIPT SMALL LETTER I;LATIN SUBSCRIPT SMALL LETTER R",
    "1d64 LATIN SUBSCRIPT SMALL LETTER U;LATIN SUBSCRIPT SMALL LETTER V",
    "1d66 GREEK SUBSCRIPT SMALL LETTER BETA;GREEK SUBSCRIPT SMALL LETTER GAMMA",
    "1d68 GREEK SUBSCRIPT SMALL LETTER RHO;GREEK SUBSCRIPT SMALL LETTER PHI",
    "1d6a GREEK SUBSCRIPT SMALL LETTER CHI;LATIN SMALL LETTER UE",
    "1d6c LATIN SMALL LETTER B WITH MIDDLE TILDE;LATIN SMALL LETTER D WITH MIDDLE TILDE",
    "1d6e LATIN SMALL LETTER F WITH MIDDLE TILDE;LATIN SMALL LETTER M WITH MIDDLE TILDE",
    "1d70 LATIN SMALL LETTER N WITH MIDDLE TILDE;LATIN SMALL LETTER P WITH MIDDLE TILDE",
    "1d72 LATIN SMALL LETTER R WITH MIDDLE TILDE",
    "1d73 LATIN SMALL LETTER R WITH FISHHOOK AND MIDDLE TILDE",
    "1d74 LATIN SMALL LETTER S WITH MIDDLE TILDE;LATIN SMALL LETTER T WITH MIDDLE TILDE",
    "1d76 LATIN SMALL LETTER Z WITH MIDDLE TILDE;LATIN SMALL LETTER TURNED G",
    "1d78 MODIFIER LETTER CYRILLIC EN;LATIN SMALL LETTER INSULAR G",
    "1d7a LATIN SMALL LETTER TH WITH STRIKETHROUGH;LATIN SMALL CAPITAL LETTER I WITH STROKE",
    "1d7c LATIN SMALL LETTER IOTA WITH STROKE;LATIN SMALL LETTER P WITH STROKE",
    "1d7e LATIN SMALL CAPITAL LETTER U WITH STROKE;LATIN SMALL LETTER UPSILON WITH STROKE",
    "1d80 LATIN SMALL LETTER B WITH PALATAL HOOK;LATIN SMALL LETTER D WITH PALATAL HOOK",
    "1d82 LATIN SMALL LETTER F WITH PALATAL HOOK;LATIN SMALL LETTER G WITH PALATAL HOOK",
    "1d84 LATIN SMALL LETTER K WITH PALATAL HOOK;LATIN SMALL LETTER L WITH PALATAL HOOK",
    "1d86 LATIN SMALL LETTER M WITH PALATAL HOOK;LATIN SMALL LETTER N WITH PALATAL HOOK",
    "1d88 LATIN SMALL LETTER P WITH PALATAL HOOK;LATIN SMALL LETTER R WITH PALATAL HOOK",
    "1d8a LATIN SMALL LETTER S WITH PALATAL HOOK;LATIN SMALL LETTER ESH WITH PALATAL HOOK",
    "1d8c LATIN SMALL LETTER V WITH PALATAL HOOK;LATIN SMALL LETTER X WITH PALATAL HOOK",
    "1d8e LATIN SMALL LETTER Z WITH PALATAL HOOK;LATIN SMALL LETTER A WITH RETROFLEX HOOK",
    "1d90 LATIN SMALL LETTER ALPHA WITH RETROFLEX HOOK;LATIN SMALL LETTER D WITH HOOK AND TAIL",
    "1d92 LATIN SMALL LETTER E WITH RETROFLEX HOOK",
    "1d93 LATIN SMALL LETTER OPEN E WITH RETROFLEX HOOK",
    "1d94 LATIN SMALL LETTER REVERSED OPEN E WITH RETROFLEX HOOK",
    "1d95 LATIN SMALL LETTER SCHWA WITH RETROFLEX HOOK;LATIN SMALL LETTER I WITH RETROFLEX HOOK",
    "1d97 LATIN SMALL LETTER OPEN O WITH RETROFLEX HOOK",
    "1d98 LATIN SMALL LETTER ESH WITH RETROFLEX HOOK;LATIN SMALL LETTER U WITH RETROFLEX HOOK",
    "1d9a LATIN SMALL LETTER EZH WITH RETROFLEX HOOK;MODIFIER LETTER SMALL TURNED ALPHA",
    "1d9c MODIFIER LETTER SMALL C;MODIFIER LETTER SMALL C WITH CURL;MODIFIER LETTER SMALL ETH",
    "1d9f MODIFIER LETTER SMALL REVERSED OPEN E;MODIFIER LETTER SMALL F",
    "1da1 MODIFIER LETTER SMALL DOTLESS J WITH STROKE;MODIFIER LETTER SMALL SCRIPT G",
    "1da3 MODIFIER LETTER SMALL TURNED H;MODIFIER LETTER SMALL I WITH STROKE",
    "1da5 MODIFIER LETTER SMALL IOTA;MODIFIER LETTER SMALL CAPITAL I",
    "1da7 MODIFIER LETTER SMALL CAPITAL I WITH STROKE;MODIFIER LETTER SMALL J WITH CROSSED-TAIL",
    "1da9 MODIFIER LETTER SMALL L WITH RETROFLEX HOOK;MODIFIER LETTER SMALL L WITH PALATAL HOOK",
    "1dab MODIFIER LETTER SMALL CAPITAL L;MODIFIER LETTER SMALL M WITH HOOK",
    "1dad MODIFIER LETTER SMALL TURNED M WITH LONG LEG;MODIFIER LETTER SMALL N WITH LEFT HOOK",
    "1daf MODIFIER LETTER SMALL N WITH RETROFLEX HOOK;MODIFIER LETTER SMALL CAPITAL N",
    "1db1 MODIFIER LETTER SMALL BARRED O;MODIFIER LETTER SMALL PHI",
    "1db3 MODIFIER LETTER SMALL S WITH HOOK;MODIFIER LETTER SMALL ESH",
    "1db5 MODIFIER LETTER SMALL T WITH PALATAL HOOK;MODIFIER LETTER SMALL U BAR",
    "1db7 MODIFIER LETTER SMALL UPSILON;MODIFIER LETTER SMALL CAPITAL U",
    "1db9 MODIFIER LETTER SMALL V WITH HOOK;MODIFIER LETTER SMALL TURNED V",
    "1dbb MODIFIER LETTER SMALL Z;MODIFIER LETTER SMALL Z WITH RETROFLEX HOOK",
    "1dbd MODIFIER LETTER SMALL Z WITH CURL;MODIFIER LETTER SMALL EZH",
    "1dbf MODIFIER LETTER SMALL THETA;COMBINING DOTTED GRAVE ACCENT",
    "1dc1 COMBINING DOTTED ACUTE ACCENT;COMBINING SNAKE BELOW;COMBINING SUSPENSION MARK",
    "1dc4 COMBINING MACRON-ACUTE;COMBINING GRAVE-MACRON;COMBINING MACRON-GRAVE",
    "1dc7 COMBINING ACUTE-MACRON;COMBINING GRAVE-ACUTE-GRAVE;COMBINING ACUTE-GRAVE-ACUTE",
    "1dca COMBINING LATIN SMALL LETTER R BELOW;COMBINING BREVE-MACRON;COMBINING MACRON-BREVE",
    "1dcd COMBINING DOUBLE CIRCUMFLEX ABOVE;COMBINING OGONEK ABOVE;COMBINING ZIGZAG BELOW",
    "1dd0 COMBINING IS BELOW;COMBINING UR ABOVE;COMBINING US ABOVE",
    "1dd3 COMBINING LATIN SMALL LETTER FLATTENED OPEN A ABOVE;COMBINING LATIN SMALL LETTER AE",
    "1dd5 COMBINING LATIN SMALL LETTER AO;COMBINING LATIN SMALL LETTER AV",
    "1dd7 COMBINING LATIN SMALL LETTER C CEDILLA;COMBINING LATIN SMALL LETTER INSULAR D",
    "1dd9 COMBINING LATIN SMALL LETTER ETH;COMBINING LATIN SMALL LETTER G",
    "1ddb COMBINING LATIN LETTER SMALL CAPITAL G;COMBINING LATIN SMALL LETTER K",
    "1ddd COMBINING LATIN SMALL LETTER L;COMBINING LATIN LETTER SMALL CAPITAL L",
    "1ddf COMBINING LATIN LETTER SMALL CAPITAL M;COMBINING LATIN SMALL LETTER N",
    "1de1 COMBINING LATIN LETTER SMALL CAPITAL N;COMBINING LATIN LETTER SMALL CAPITAL R",
    "1de3 COMBINING LATIN SMALL LETTER R ROTUNDA;COMBINING LATIN SMALL LETTER S",
    "1de5 COMBINING LATIN SMALL LETTER LONG S;COMBINING LATIN SMALL LETTER Z",
    "1de7 COMBINING LATIN SMALL LETTER ALPHA;COMBINING LATIN SMALL LETTER B",
    "1de9 COMBINING LATIN SMALL LETTER BETA;COMBINING LATIN SMALL LETTER SCHWA",
    "1deb COMBINING LATIN SMALL LETTER F",
    "1dec COMBINING LATIN SMALL LETTER L WITH DOUBLE MIDDLE TILDE",
    "1ded COMBINING LATIN SMALL LETTER O WITH LIGHT CENTRALIZATION STROKE",
    "1dee COMBINING LATIN SMALL LETTER P;COMBINING LATIN SMALL LETTER ESH",
    "1df0 COMBINING LATIN SMALL LETTER U WITH LIGHT CENTRALIZATION STROKE",
    "1df1 COMBINING LATIN SMALL LETTER W;COMBINING LATIN SMALL LETTER A WITH DIAERESIS",
    "1df3 COMBINING LATIN SMALL LETTER O WITH DIAERESIS",
    "1df4 COMBINING LATIN SMALL LETTER U WITH DIAERESIS;COMBINING UP TACK ABOVE",
    "1df6 COMBINING KAVYKA ABOVE RIGHT;COMBINING KAVYKA ABOVE LEFT;COMBINING DOT ABOVE LEFT",
    "1df9 COMBINING WIDE INVERTED BRIDGE BELOW;COMBINING DOT BELOW LEFT;COMBINING DELETION MARK",
    "1dfc COMBINING DOUBLE INVERTED BREVE BELOW;COMBINING ALMOST EQUAL TO BELOW",
    "1dfe COMBINING LEFT ARROWHEAD ABOVE;COMBINING RIGHT ARROWHEAD AND DOWN ARROWHEAD BELOW",
    "1e00 LATIN CAPITAL LETTER A WITH RING BELOW;LATIN SMALL LETTER A WITH RING BELOW",
    "1e02 LATIN CAPITAL LETTER B WITH DOT ABOVE;LATIN SMALL LETTER B WITH DOT ABOVE",
    "1e04 LATIN CAPITAL LETTER B WITH DOT BELOW;LATIN SMALL LETTER B WITH DOT BELOW",
    "1e06 LATIN CAPITAL LETTER B WITH LINE BELOW;LATIN SMALL LETTER B WITH LINE BELOW",
    "1e08 LATIN CAPITAL LETTER C WITH CEDILLA AND ACUTE",
    "1e09 LATIN SMALL LETTER C WITH CEDILLA AND ACUTE;LATIN CAPITAL LETTER D WITH DOT ABOVE",
    "1e0b LATIN SMALL LETTER D WITH DOT ABOVE;LATIN CAPITAL LETTER D WITH DOT BELOW",
    "1e0d LATIN SMALL LETTER D WITH DOT BELOW;LATIN CAPITAL LETTER D WITH LINE BELOW",
    "1e0f LATIN SMALL LETTER D WITH LINE BELOW;LATIN CAPITAL LETTER D WITH CEDILLA",
    "1e11 LATIN SMALL LETTER D WITH CEDILLA;LATIN CAPITAL LETTER D WITH CIRCUMFLEX BELOW",
    "1e13 LATIN SMALL LETTER D WITH CIRCUMFLEX BELOW",
    "1e14 LATIN CAPITAL LETTER E WITH MACRON AND GRAVE",
    "1e15 LATIN SMALL LETTER E WITH MACRON AND GRAVE",
    "1e16 LATIN CAPITAL LETTER E WITH MACRON AND ACUTE",
    "1e17 LATIN SMALL LETTER E WITH MACRON AND ACUTE",
    "1e18 LATIN CAPITAL LETTER E WITH CIRCUMFLEX BELOW",
    "1e19 LATIN SMALL LETTER E WITH CIRCUMFLEX BELOW;LATIN CAPITAL LETTER E WITH TILDE BELOW",
    "1e1b LATIN SMALL LETTER E WITH TILDE BELOW;LATIN CAPITAL LETTER E WITH CEDILLA AND BREVE",
    "1e1d LATIN SMALL LETTER E WITH CEDILLA AND BREVE;LATIN CAPITAL LETTER F WITH DOT ABOVE",
    "1e1f LATIN SMALL LETTER F WITH DOT ABOVE;LATIN CAPITAL LETTER G WITH MACRON",
    "1e21 LATIN SMALL LETTER G WITH MACRON;LATIN CAPITAL LETTER H WITH DOT ABOVE",
    "1e23 LATIN SMALL LETTER H WITH DOT ABOVE;LATIN CAPITAL LETTER H WITH DOT BELOW",
    "1e25 LATIN SMALL LETTER H WITH DOT BELOW;LATIN CAPITAL LETTER H WITH DIAERESIS",
    "1e27 LATIN SMALL LETTER H WITH DIAERESIS;LATIN CAPITAL LETTER H WITH CEDILLA",
    "1e29 LATIN SMALL LETTER H WITH CEDILLA;LATIN CAPITAL LETTER H WITH BREVE BELOW",
    "1e2b LATIN SMALL LETTER H WITH BREVE BELOW;LATIN CAPITAL LETTER I WITH TILDE BELOW",
    "1e2d LATIN SMALL LETTER I WITH TILDE BELOW;LATIN CAPITAL LETTER I WITH DIAERESIS AND ACUTE",
    "1e2f LATIN SMALL LETTER I WITH DIAERESIS AND ACUTE;LATIN CAPITAL LETTER K WITH ACUTE",
    "1e31 LATIN SMALL LETTER K WITH ACUTE;LATIN CAPITAL LETTER K WITH DOT BELOW",
    "1e33 LATIN SMALL LETTER K WITH DOT BELOW;LATIN CAPITAL LETTER K WITH LINE BELOW",
    "1e35 LATIN SMALL LETTER K WITH LINE BELOW;LATIN CAPITAL LETTER L WITH DOT BELOW",
    "1e37 LATIN SMALL LETTER L WITH DOT BELOW;LATIN CAPITAL LETTER L WITH DOT BELOW AND MACRON",
    "1e39 LATIN SMALL LETTER L WITH DOT BELOW AND MACRON;LATIN CAPITAL LETTER L WITH LINE BELOW",
    "1e3b LATIN SMALL LETTER L WITH LINE BELOW;LATIN CAPITAL LETTER L WITH CIRCUMFLEX BELOW",
    "1e3d LATIN SMALL LETTER L WITH CIRCUMFLEX BELOW;LATIN CAPITAL LETTER M WITH ACUTE",
    "1e3f LATIN SMALL LETTER M WITH ACUTE;LATIN CAPITAL LETTER M WITH DOT ABOVE",
    "1e41 LATIN SMALL LETTER M WITH DOT ABOVE;LATIN CAPITAL LETTER M WITH DOT BELOW",
    "1e43 LATIN SMALL LETTER M WITH DOT BELOW;LATIN CAPITAL LETTER N WITH DOT ABOVE",
    "1e45 LATIN SMALL LETTER N WITH DOT ABOVE;LATIN CAPITAL LETTER N WITH DOT BELOW",
    "1e47 LATIN SMALL LETTER N WITH DOT BELOW;LATIN CAPITAL LETTER N WITH LINE BELOW",
    "1e49 LATIN SMALL LETTER N WITH LINE BELOW;LATIN CAPITAL LETTER N WITH CIRCUMFLEX BELOW",
    "1e4b LATIN SMALL LETTER N WITH CIRCUMFLEX BELOW",
    "1e4c LATIN CAPITAL LETTER O WITH TILDE AND ACUTE;LATIN SMALL LETTER O WITH TILDE AND ACUTE",
    "1e4e LATIN CAPITAL LETTER O WITH TILDE AND DIAERESIS",
    "1e4f LATIN SMALL LETTER O WITH TILDE AND DIAERESIS",
    "1e50 LATIN CAPITAL LETTER O WITH MACRON AND GRAVE",
    "1e51 LATIN SMALL LETTER O WITH MACRON AND GRAVE",
    "1e52 LATIN CAPITAL LETTER O WITH MACRON AND ACUTE",
    "1e53 LATIN SMALL LETTER O WITH MACRON AND ACUTE;LATIN CAPITAL LETTER P WITH ACUTE",
    "1e55 LATIN SMALL LETTER P WITH ACUTE;LATIN CAPITAL LETTER P WITH DOT ABOVE",
    "1e57 LATIN SMALL LETTER P WITH DOT ABOVE;LATIN CAPITAL LETTER R WITH DOT ABOVE",
    "1e59 LATIN SMALL LETTER R WITH DOT ABOVE;LATIN CAPITAL LETTER R WITH DOT BELOW",
    "1e5b LATIN SMALL LETTER R WITH DOT BELOW;LATIN CAPITAL LETTER R WITH DOT BELOW AND MACRON",
    "1e5d LATIN SMALL LETTER R WITH DOT BELOW AND MACRON;LATIN CAPITAL LETTER R WITH LINE BELOW",
    "1e5f LATIN SMALL LETTER R WITH LINE BELOW;LATIN CAPITAL LETTER S WITH DOT ABOVE",
    "1e61 LATIN SMALL LETTER S WITH DOT ABOVE;LATIN CAPITAL LETTER S WITH DOT BELOW",
    "1e63 LATIN SMALL LETTER S WITH DOT BELOW;LATIN CAPITAL LETTER S WITH ACUTE AND DOT ABOVE",
    "1e65 LATIN SMALL LETTER S WITH ACUTE AND DOT ABOVE",
    "1e66 LATIN CAPITAL LETTER S WITH CARON AND DOT ABOVE",
    "1e67 LATIN SMALL LETTER S WITH CARON AND DOT ABOVE",
    "1e68 LATIN CAPITAL LETTER S WITH DOT BELOW AND DOT ABOVE",
    "1e69 LATIN SMALL LETTER S WITH DOT BELOW AND DOT ABOVE",
    "1e6a LATIN CAPITAL LETTER T WITH DOT ABOVE;LATIN SMALL LETTER T WITH DOT ABOVE",
    "1e6c LATIN CAPITAL LETTER T WITH DOT BELOW;LATIN SMALL LETTER T WITH DOT BELOW",
    "1e6e LATIN CAPITAL LETTER T WITH LINE BELOW;LATIN SMALL LETTER T WITH LINE BELOW",
    "1e70 LATIN CAPITAL LETTER T WITH CIRCUMFLEX BELOW",
    "1e71 LATIN SMALL LETTER T WITH CIRCUMFLEX BELOW",
    "1e72 LATIN CAPITAL LETTER U WITH DIAERESIS BELOW;LATIN SMALL LETTER U WITH DIAERESIS BELOW",
    "1e74 LATIN CAPITAL LETTER U WITH TILDE BELOW;LATIN SMALL LETTER U WITH TILDE BELOW",
    "1e76 LATIN CAPITAL LETTER U WITH CIRCUMFLEX BELOW",
    "1e77 LATIN SMALL LETTER U WITH CIRCUMFLEX BELOW",
    "1e78 LATIN CAPITAL LETTER U WITH TILDE AND ACUTE;LATIN SMALL LETTER U WITH TILDE AND ACUTE",
    "1e7a LATIN CAPITAL LETTER U WITH MACRON AND DIAERESIS",
    "1e7b LATIN SMALL LETTER U WITH MACRON AND DIAERESIS;LATIN CAPITAL LETTER V WITH TILDE",
    "1e7d LATIN SMALL LETTER V WITH TILDE;LATIN CAPITAL LETTER V WITH DOT BELOW",
    "1e7f LATIN SMALL LETTER V WITH DOT BELOW;LATIN CAPITAL LETTER W WITH GRAVE"]

/-- The names from U+1E81 to U+1FE1. -/
def letterNamesE : List String :=
  ["1e81 LATIN SMALL LETTER W WITH GRAVE;LATIN CAPITAL LETTER W WITH ACUTE",
    "1e83 LATIN SMALL LETTER W WITH ACUTE;LATIN CAPITAL LETTER W WITH DIAERESIS",
    "1e85 LATIN SMALL LETTER W WITH DIAERESIS;LATIN CAPITAL LETTER W WITH DOT ABOVE",
    "1e87 LATIN SMALL LETTER W WITH DOT ABOVE;LATIN CAPITAL LETTER W WITH DOT BELOW",
    "1e89 LATIN SMALL LETTER W WITH DOT BELOW;LATIN CAPITAL LETTER X WITH DOT ABOVE",
    "1e8b LATIN SMALL LETTER X WITH DOT ABOVE;LATIN CAPITAL LETTER X WITH DIAERESIS",
    "1e8d LATIN SMALL LETTER X WITH DIAERESIS;LATIN CAPITAL LETTER Y WITH DOT ABOVE",
    "1e8f LATIN SMALL LETTER Y WITH DOT ABOVE;LATIN CAPITAL LETTER Z WITH CIRCUMFLEX",
    "1e91 LATIN SMALL LETTER Z WITH CIRCUMFLEX;LATIN CAPITAL LETTER Z WITH DOT BELOW",
    "1e93 LATIN SMALL LETTER Z WITH DOT BELOW;LATIN CAPITAL LETTER Z WITH LINE BELOW",
    "1e95 LATIN SMALL LETTER Z WITH LINE BELOW;LATIN SMALL LETTER H WITH LINE BELOW",
    "1e97 LATIN SMALL LETTER T WITH DIAERESIS;LATIN SMALL LETTER W WITH RING ABOVE",
    "1e99 LATIN SMALL LETTER Y WITH RING ABOVE;LATIN SMALL LETTER A WITH RIGHT HALF RING",
    "1e9b LATIN SMALL LETTER LONG S WITH DOT ABOVE",
    "1e9c LATIN SMALL LETTER LONG S WITH DIAGONAL STROKE",
    "1e9d LATIN SMALL LETTER LONG S WITH HIGH STROKE;LATIN CAPITAL LETTER SHARP S",
    "1e9f LATIN SMALL LETTER DELTA;LATIN CAPITAL LETTER A WITH DOT BELOW",
    "1ea1 LATIN SMALL LETTER A WITH DOT BELOW;LATIN CAPITAL LETTER A WITH HOOK ABOVE",
    "1ea3 LATIN SMALL LETTER A WITH HOOK ABOVE;LATIN CAPITAL LETTER A WITH CIRCUMFLEX AND ACUTE",
    "1ea5 LATIN SMALL LETTER A WITH CIRCUMFLEX AND ACUTE",
    "1ea6 LATIN CAPITAL LETTER A WITH CIRCUMFLEX AND GRAVE",
    "1ea7 LATIN SMALL LETTER A WITH CIRCUMFLEX AND GRAVE",
    "1ea8 LATIN CAPITAL LETTER A WITH CIRCUMFLEX AND HOOK ABOVE",
    "1ea9 LATIN SMALL LETTER A WITH CIRCUMFLEX AND HOOK ABOVE",
    "1eaa LATIN CAPITAL LETTER A WITH CIRCUMFLEX AND TILDE",
    "1eab LATIN SMALL LETTER A WITH CIRCUMFLEX AND TILDE",
    "1eac LATIN CAPITAL LETTER A WITH CIRCUMFLEX AND DOT BELOW",
    "1ead LATIN SMALL LETTER A WITH CIRCUMFLEX AND DOT BELOW",
    "1eae LATIN CAPITAL LETTER A WITH BREVE AND ACUTE;LATIN SMALL LETTER A WITH BREVE AND ACUTE",
    "1eb0 LATIN CAPITAL LETTER A WITH BREVE AND GRAVE;LATIN SMALL LETTER A WITH BREVE AND GRAVE",
    "1eb2 LATIN CAPITAL LETTER A WITH BREVE AND HOOK ABOVE",
    "1eb3 LATIN SMALL LETTER A WITH BREVE AND HOOK ABOVE",
    "1eb4 LATIN CAPITAL LETTER A WITH BREVE AND TILDE;LATIN SMALL LETTER A WITH BREVE AND TILDE",
    "1eb6 LATIN CAPITAL LETTER A WITH BREVE AND DOT BELOW",
    "1eb7 LATIN SMALL LETTER A WITH BREVE AND DOT BELOW;LATIN CAPITAL LETTER E WITH DOT BELOW",
    "1eb9 LATIN SMALL LETTER E WITH DOT BELOW;LATIN CAPITAL LETTER E WITH HOOK ABOVE",
    "1ebb LATIN SMALL LETTER E WITH HOOK ABOVE;LATIN CAPITAL LETTER E WITH TILDE",
    "1ebd LATIN SMALL LETTER E WITH TILDE;LATIN CAPITAL LETTER E WITH CIRCUMFLEX AND ACUTE",
    "1ebf LATIN SMALL LETTER E WITH CIRCUMFLEX AND ACUTE",
    "1ec0 LATIN CAPITAL LETTER E WITH CIRCUMFLEX AND GRAVE",
    "1ec1 LATIN SMALL LETTER E WITH CIRCUMFLEX AND GRAVE",
    "1ec2 LATIN CAPITAL LETTER E WITH CIRCUMFLEX AND HOOK ABOVE",
    "1ec3 LATIN SMALL LETTER E WITH CIRCUMFLEX AND HOOK ABOVE",
    "1ec4 LATIN CAPITAL LETTER E WITH CIRCUMFLEX AND TILDE",
    "1ec5 LATIN SMALL LETTER E WITH CIRCUMFLEX AND TILDE",
    "1ec6 LATIN CAPITAL LETTER E WITH CIRCUMFLEX AND DOT BELOW",
    "1ec7 LATIN SMALL LETTER E WITH CIRCUMFLEX AND DOT BELOW",
    "1ec8 LATIN CAPITAL LETTER I WITH HOOK ABOVE;LATIN SMALL LETTER I WITH HOOK ABOVE",
    "1eca LATIN CAPITAL LETTER I WITH DOT BELOW;LATIN SMALL LETTER I WITH DOT BELOW",
    "1ecc LATIN CAPITAL LETTER O WITH DOT BELOW;LATIN SMALL LETTER O WITH DOT BELOW",
    "1ece LATIN CAPITAL LETTER O WITH HOOK ABOVE;LATIN SMALL LETTER O WITH HOOK ABOVE",
    "1ed0 LATIN CAPITAL LETTER O WITH CIRCUMFLEX AND ACUTE",
    "1ed1 LATIN SMALL LETTER O WITH CIRCUMFLEX AND ACUTE",
    "1ed2 LATIN CAPITAL LETTER O WITH CIRCUMFLEX AND GRAVE",
    "1ed3 LATIN SMALL LETTER O WITH CIRCUMFLEX AND GRAVE",
    "1ed4 LATIN CAPITAL LETTER O WITH CIRCUMFLEX AND HOOK ABOVE",
    "1ed5 LATIN SMALL LETTER O WITH CIRCUMFLEX AND HOOK ABOVE",
    "1ed6 LATIN CAPITAL LETTER O WITH CIRCUMFLEX AND TILDE",
    "1ed7 LATIN SMALL LETTER O WITH CIRCUMFLEX AND TILDE",
    "1ed8 LATIN CAPITAL LETTER O WITH CIRCUMFLEX AND DOT BELOW",
    "1ed9 LATIN SMALL LETTER O WITH CIRCUMFLEX AND DOT BELOW",
    "1eda LATIN CAPITAL LETTER O WITH HORN AND ACUTE;LATIN SMALL LETTER O WITH HORN AND ACUTE",
    "1edc LATIN CAPITAL LETTER O WITH HORN AND GRAVE;LATIN SMALL LETTER O WITH HORN AND GRAVE",
    "1ede LATIN CAPITAL LETTER O WITH HORN AND HOOK ABOVE",
    "1edf LATIN SMALL LETTER O WITH HORN AND HOOK ABOVE",
    "1ee0 LATIN CAPITAL LETTER O WITH HORN AND TILDE;LATIN SMALL LETTER O WITH HORN AND TILDE",
    "1ee2 LATIN CAPITAL LETTER O WITH HORN AND DOT BELOW",
    "1ee3 LATIN SMALL LETTER O WITH HORN AND DOT BELOW;LATIN CAPITAL LETTER U WITH DOT BELOW",
    "1ee5 LATIN SMALL LETTER U WITH DOT BELOW;LATIN CAPITAL LETTER U WITH HOOK ABOVE",
    "1ee7 LATIN SMALL LETTER U WITH HOOK ABOVE;LATIN CAPITAL LETTER U WITH HORN AND ACUTE",
    "1ee9 LATIN SMALL LETTER U WITH HORN AND ACUTE;LATIN CAPITAL LETTER U WITH HORN AND GRAVE",
    "1eeb LATIN SMALL LETTER U WITH HORN AND GRAVE",
    "1eec LATIN CAPITAL LETTER U WITH HORN AND HOOK ABOVE",
    "1eed LATIN SMALL LETTER U WITH HORN AND HOOK ABOVE",
    "1eee LATIN CAPITAL LETTER U WITH HORN AND TILDE;LATIN SMALL LETTER U WITH HORN AND TILDE",
    "1ef0 LATIN CAPITAL LETTER U WITH HORN AND DOT BELOW",
    "1ef1 LATIN SMALL LETTER U WITH HORN AND DOT BELOW;LATIN CAPITAL LETTER Y WITH GRAVE",
    "1ef3 LATIN SMALL LETTER Y WITH GRAVE;LATIN CAPITAL LETTER Y WITH DOT BELOW",
    "1ef5 LATIN SMALL LETTER Y WITH DOT BELOW;LATIN CAPITAL LETTER Y WITH HOOK ABOVE",
    "1ef7 LATIN SMALL LETTER Y WITH HOOK ABOVE;LATIN CAPITAL LETTER Y WITH TILDE",
    "1ef9 LATIN SMALL LETTER Y WITH TILDE;LATIN CAPITAL LETTER MIDDLE-WELSH LL",
    "1efb LATIN SMALL LETTER MIDDLE-WELSH LL;LATIN CAPITAL LETTER MIDDLE-WELSH V",
    "1efd LATIN SMALL LETTER MIDDLE-WELSH V;LATIN CAPITAL LETTER Y WITH LOOP",
    "1eff LATIN SMALL LETTER Y WITH LOOP;GREEK SMALL LETTER ALPHA WITH PSILI",
    "1f01 GREEK SMALL LETTER ALPHA WITH DASIA;GREEK SMALL LETTER ALPHA WITH PSILI AND VARIA",
    "1f03 GREEK SMALL LETTER ALPHA WITH DASIA AND VARIA",
    "1f04 GREEK SMALL LETTER ALPHA WITH PSILI AND OXIA",
    "1f05 GREEK SMALL LETTER ALPHA WITH DASIA AND OXIA",
    "1f06 GREEK SMALL LETTER ALPHA WITH PSILI AND PERISPOMENI",
    "1f07 GREEK SMALL LETTER ALPHA WITH DASIA AND PERISPOMENI",
    "1f08 GREEK CAPITAL LETTER ALPHA WITH PSILI;GREEK CAPITAL LETTER ALPHA WITH DASIA",
    "1f0a GREEK CAPITAL LETTER ALPHA WITH PSILI AND VARIA",
    "1f0b GREEK CAPITAL LETTER ALPHA WITH DASIA AND VARIA",
    "1f0c GREEK CAPITAL LETTER ALPHA WITH PSILI AND OXIA",
    "1f0d GREEK CAPITAL LETTER ALPHA WITH DASIA AND OXIA",
    "1f0e GREEK CAPITAL LETTER ALPHA WITH PSILI AND PERISPOMENI",
    "1f0f GREEK CAPITAL LETTER ALPHA WITH DASIA AND PERISPOMENI",
    "1f10 GREEK SMALL LETTER EPSILON WITH PSILI;GREEK SMALL LETTER EPSILON WITH DASIA",
    "1f12 GREEK SMALL LETTER EPSILON WITH PSILI AND VARIA",
    "1f13 GREEK SMALL LETTER EPSILON WITH DASIA AND VARIA",
    "1f14 GREEK SMALL LETTER EPSILON WITH PSILI AND OXIA",
    "1f15 GREEK SMALL LETTER EPSILON WITH DASIA AND OXIA",
    "1f18 GREEK CAPITAL LETTER EPSILON WITH PSILI;GREEK CAPITAL LETTER EPSILON WITH DASIA",
    "1f1a GREEK CAPITAL LETTER EPSILON WITH PSILI AND VARIA",
    "1f1b GREEK CAPITAL LETTER EPSILON WITH DASIA AND VARIA",
    "1f1c GREEK CAPITAL LETTER EPSILON WITH PSILI AND OXIA",
    "1f1d GREEK CAPITAL LETTER EPSILON WITH DASIA AND OXIA",
    "1f20 GREEK SMALL LETTER ETA WITH PSILI;GREEK SMALL LETTER ETA WITH DASIA",
    "1f22 GREEK SMALL LETTER ETA WITH PSILI AND VARIA",
    "1f23 GREEK SMALL LETTER ETA WITH DASIA AND VARIA",
    "1f24 GREEK SMALL LETTER ETA WITH PSILI AND OXIA;GREEK SMALL LETTER ETA WITH DASIA AND OXIA",
    "1f26 GREEK SMALL LETTER ETA WITH PSILI AND PERISPOMENI",
    "1f27 GREEK SMALL LETTER ETA WITH DASIA AND PERISPOMENI;GREEK CAPITAL LETTER ETA WITH PSILI",
    "1f29 GREEK CAPITAL LETTER ETA WITH DASIA;GREEK CAPITAL LETTER ETA WITH PSILI AND VARIA",
    "1f2b GREEK CAPITAL LETTER ETA WITH DASIA AND VARIA",
    "1f2c GREEK CAPITAL LETTER ETA WITH PSILI AND OXIA",
    "1f2d GREEK CAPITAL LETTER ETA WITH DASIA AND OXIA",
    "1f2e GREEK CAPITAL LETTER ETA WITH PSILI AND PERISPOMENI",
    "1f2f GREEK CAPITAL LETTER ETA WITH DASIA AND PERISPOMENI",
    "1f30 GREEK SMALL LETTER IOTA WITH PSILI;GREEK SMALL LETTER IOTA WITH DASIA",
    "1f32 GREEK SMALL LETTER IOTA WITH PSILI AND VARIA",
    "1f33 GREEK SMALL LETTER IOTA WITH DASIA AND VARIA",
    "1f34 GREEK SMALL LETTER IOTA WITH PSILI AND OXIA",
    "1f35 GREEK SMALL LETTER IOTA WITH DASIA AND OXIA",
    "1f36 GREEK SMALL LETTER IOTA WITH PSILI AND PERISPOMENI",
    "1f37 GREEK SMALL LETTER IOTA WITH DASIA AND PERISPOMENI",
    "1f38 GREEK CAPITAL LETTER IOTA WITH PSILI;GREEK CAPITAL LETTER IOTA WITH DASIA",
    "1f3a GREEK CAPITAL LETTER IOTA WITH PSILI AND VARIA",
    "1f3b GREEK CAPITAL LETTER IOTA WITH DASIA AND VARIA",
    "1f3c GREEK CAPITAL LETTER IOTA WITH PSILI AND OXIA",
    "1f3d GREEK CAPITAL LETTER IOTA WITH DASIA AND OXIA",
    "1f3e GREEK CAPITAL LETTER IOTA WITH PSILI AND PERISPOMENI",
    "1f3f GREEK CAPITAL LETTER IOTA WITH DASIA AND PERISPOMENI",
    "1f40 GREEK SMALL LETTER OMICRON WITH PSILI;GREEK SMALL LETTER OMICRON WITH DASIA",
    "1f42 GREEK SMALL LETTER OMICRON WITH PSILI AND VARIA",
    "1f43 GREEK SMALL LETTER OMICRON WITH DASIA AND VARIA",
    "1f44 GREEK SMALL LETTER OMICRON WITH PSILI AND OXIA",
    "1f45 GREEK SMALL LETTER OMICRON WITH DASIA AND OXIA",
    "1f48 GREEK CAPITAL LETTER OMICRON WITH PSILI;GREEK CAPITAL LETTER OMICRON WITH DASIA",
    "1f4a GREEK CAPITAL LETTER OMICRON WITH PSILI AND VARIA",
    "1f4b GREEK CAPITAL LETTER OMICRON WITH DASIA AND VARIA",
    "1f4c GREEK CAPITAL LETTER OMICRON WITH PSILI AND OXIA",
    "1f4d GREEK CAPITAL LETTER OMICRON WITH DASIA AND OXIA",
    "1f50 GREEK SMALL LETTER UPSILON WITH PSILI;GREEK SMALL LETTER UPSILON WITH DASIA",
    "1f52 GREEK SMALL LETTER UPSILON WITH PSILI AND VARIA",
    "1f53 GREEK SMALL LETTER UPSILON WITH DASIA AND VARIA",
    "1f54 GREEK SMALL LETTER UPSILON WITH PSILI AND OXIA",
    "1f55 GREEK SMALL LETTER UPSILON WITH DASIA AND OXIA",
    "1f56 GREEK SMALL LETTER UPSILON WITH PSILI AND PERISPOMENI",
    "1f57 GREEK SMALL LETTER UPSILON WITH DASIA AND PERISPOMENI",
    "1f59 GREEK CAPITAL LETTER UPSILON WITH DASIA",
    "1f5b GREEK CAPITAL LETTER UPSILON WITH DASIA AND VARIA",
    "1f5d GREEK CAPITAL LETTER UPSILON WITH DASIA AND OXIA",
    "1f5f GREEK CAPITAL LETTER UPSILON WITH DASIA AND PERISPOMENI",
    "1f60 GREEK SMALL LETTER OMEGA WITH PSILI;GREEK SMALL LETTER OMEGA WITH DASIA",
    "1f62 GREEK SMALL LETTER OMEGA WITH PSILI AND VARIA",
    "1f63 GREEK SMALL LETTER OMEGA WITH DASIA AND VARIA",
    "1f64 GREEK SMALL LETTER OMEGA WITH PSILI AND OXIA",
    "1f65 GREEK SMALL LETTER OMEGA WITH DASIA AND OXIA",
    "1f66 GREEK SMALL LETTER OMEGA WITH PSILI AND PERISPOMENI",
    "1f67 GREEK SMALL LETTER OMEGA WITH DASIA AND PERISPOMENI",
    "1f68 GREEK CAPITAL LETTER OMEGA WITH PSILI;GREEK CAPITAL LETTER OMEGA WITH DASIA",
    "1f6a GREEK CAPITAL LETTER OMEGA WITH PSILI AND VARIA",
    "1f6b GREEK CAPITAL LETTER OMEGA WITH DASIA AND VARIA",
    "1f6c GREEK CAPITAL LETTER OMEGA WITH PSILI AND OXIA",
    "1f6d GREEK CAPITAL LETTER OMEGA WITH DASIA AND OXIA",
    "1f6e GREEK CAPITAL LETTER OMEGA WITH PSILI AND PERISPOMENI",
    "1f6f GREEK CAPITAL LETTER OMEGA WITH DASIA AND PERISPOMENI",
    "1f70 GREEK SMALL LETTER ALPHA WITH VARIA;GREEK SMALL LETTER ALPHA WITH OXIA",
    "1f72 GREEK SMALL LETTER EPSILON WITH VARIA;GREEK SMALL LETTER EPSILON WITH OXIA",
    "1f74 GREEK SMALL LETTER ETA WITH VARIA;GREEK SMALL LETTER ETA WITH OXIA",
    "1f76 GREEK SMALL LETTER IOTA WITH VARIA;GREEK SMALL LETTER IOTA WITH OXIA",
    "1f78 GREEK SMALL LETTER OMICRON WITH VARIA;GREEK SMALL LETTER OMICRON WITH OXIA",
    "1f7a GREEK SMALL LETTER UPSILON WITH VARIA;GREEK SMALL LETTER UPSILON WITH OXIA",
    "1f7c GREEK SMALL LETTER OMEGA WITH VARIA;GREEK SMALL LETTER OMEGA WITH OXIA",
    "1f80 GREEK SMALL LETTER ALPHA WITH PSILI AND YPOGEGRAMMENI",
    "1f81 GREEK SMALL LETTER ALPHA WITH DASIA AND YPOGEGRAMMENI",
    "1f82 GREEK SMALL LETTER ALPHA WITH PSILI AND VARIA AND YPOGEGRAMMENI",
    "1f83 GREEK SMALL LETTER ALPHA WITH DASIA AND VARIA AND YPOGEGRAMMENI",
    "1f84 GREEK SMALL LETTER ALPHA WITH PSILI AND OXIA AND YPOGEGRAMMENI",
    "1f85 GREEK SMALL LETTER ALPHA WITH DASIA AND OXIA AND YPOGEGRAMMENI",
    "1f86 GREEK SMALL LETTER ALPHA WITH PSILI AND PERISPOMENI AND YPOGEGRAMMENI",
    "1f87 GREEK SMALL LETTER ALPHA WITH DASIA AND PERISPOMENI AND YPOGEGRAMMENI",
    "1f88 GREEK CAPITAL LETTER ALPHA WITH PSILI AND PROSGEGRAMMENI",
    "1f89 GREEK CAPITAL LETTER ALPHA WITH DASIA AND PROSGEGRAMMENI",
    "1f8a GREEK CAPITAL LETTER ALPHA WITH PSILI AND VARIA AND PROSGEGRAMMENI",
    "1f8b GREEK CAPITAL LETTER ALPHA WITH DASIA AND VARIA AND PROSGEGRAMMENI",
    "1f8c GREEK CAPITAL LETTER ALPHA WITH PSILI AND OXIA AND PROSGEGRAMMENI",
    "1f8d GREEK CAPITAL LETTER ALPHA WITH DASIA AND OXIA AND PROSGEGRAMMENI",
    "1f8e GREEK CAPITAL LETTER ALPHA WITH PSILI AND PERISPOMENI AND PROSGEGRAMMENI",
    "1f8f GREEK CAPITAL LETTER ALPHA WITH DASIA AND PERISPOMENI AND PROSGEGRAMMENI",
    "1f90 GREEK SMALL LETTER ETA WITH PSILI AND YPOGEGRAMMENI",
    "1f91 GREEK SMALL LETTER ETA WITH DASIA AND YPOGEGRAMMENI",
    "1f92 GREEK SMALL LETTER ETA WITH PSILI AND VARIA AND YPOGEGRAMMENI",
    "1f93 GREEK SMALL LETTER ETA WITH DASIA AND VARIA AND YPOGEGRAMMENI",
    "1f94 GREEK SMALL LETTER ETA WITH PSILI AND OXIA AND YPOGEGRAMMENI",
    "1f95 GREEK SMALL LETTER ETA WITH DASIA AND OXIA AND YPOGEGRAMMENI",
    "1f96 GREEK SMALL LETTER ETA WITH PSILI AND PERISPOMENI AND YPOGEGRAMMENI",
    "1f97 GREEK SMALL LETTER ETA WITH DASIA AND PERISPOMENI AND YPOGEGRAMMENI",
    "1f98 GREEK CAPITAL LETTER ETA WITH PSILI AND PROSGEGRAMMENI",
    "1f99 GREEK CAPITAL LETTER ETA WITH DASIA AND PROSGEGRAMMENI",
    "1f9a GREEK CAPITAL LETTER ETA WITH PSILI AND VARIA AND PROSGEGRAMMENI",
    "1f9b GREEK CAPITAL LETTER ETA WITH DASIA AND VARIA AND PROSGEGRAMMENI",
    "1f9c GREEK CAPITAL LETTER ETA WITH PSILI AND OXIA AND PROSGEGRAMMENI",
    "1f9d GREEK CAPITAL LETTER ETA WITH DASIA AND OXIA AND PROSGEGRAMMENI",
    "1f9e GREEK CAPITAL LETTER ETA WITH PSILI AND PERISPOMENI AND PROSGEGRAMMENI",
    "1f9f GREEK CAPITAL LETTER ETA WITH DASIA AND PERISPOMENI AND PROSGEGRAMMENI",
    "1fa0 GREEK SMALL LETTER OMEGA WITH PSILI AND YPOGEGRAMMENI",
    "1fa1 GREEK SMALL LETTER OMEGA WITH DASIA AND YPOGEGRAMMENI",
    "1fa2 GREEK SMALL LETTER OMEGA WITH PSILI AND VARIA AND YPOGEGRAMMENI",
    "1fa3 GREEK SMALL LETTER OMEGA WITH DASIA AND VARIA AND YPOGEGRAMMENI",
    "1fa4 GREEK SMALL LETTER OMEGA WITH PSILI AND OXIA AND YPOGEGRAMMENI",
    "1fa5 GREEK SMALL LETTER OMEGA WITH DASIA AND OXIA AND YPOGEGRAMMENI",
    "1fa6 GREEK SMALL LETTER OMEGA WITH PSILI AND PERISPOMENI AND YPOGEGRAMMENI",
    "1fa7 GREEK SMALL LETTER OMEGA WITH DASIA AND PERISPOMENI AND YPOGEGRAMMENI",
    "1fa8 GREEK CAPITAL LETTER OMEGA WITH PSILI AND PROSGEGRAMMENI",
    "1fa9 GREEK CAPITAL LETTER OMEGA WITH DASIA AND PROSGEGRAMMENI",
    "1faa GREEK CAPITAL LETTER OMEGA WITH PSILI AND VARIA AND PROSGEGRAMMENI",
    "1fab GREEK CAPITAL LETTER OMEGA WITH DASIA AND VARIA AND PROSGEGRAMMENI",
    "1fac GREEK CAPITAL LETTER OMEGA WITH PSILI AND OXIA AND PROSGEGRAMMENI",
    "1fad GREEK CAPITAL LETTER OMEGA WITH DASIA AND OXIA AND PROSGEGRAMMENI",
    "1fae GREEK CAPITAL LETTER OMEGA WITH PSILI AND PERISPOMENI AND PROSGEGRAMMENI",
    "1faf GREEK CAPITAL LETTER OMEGA WITH DASIA AND PERISPOMENI AND PROSGEGRAMMENI",
    "1fb0 GREEK SMALL LETTER ALPHA WITH VRACHY;GREEK SMALL LETTER ALPHA WITH MACRON",
    "1fb2 GREEK SMALL LETTER ALPHA WITH VARIA AND YPOGEGRAMMENI",
    "1fb3 GREEK SMALL LETTER ALPHA WITH YPOGEGRAMMENI",
    "1fb4 GREEK SMALL LETTER ALPHA WITH OXIA AND YPOGEGRAMMENI",
    "1fb6 GREEK SMALL LETTER ALPHA WITH PERISPOMENI",
    "1fb7 GREEK SMALL LETTER ALPHA WITH PERISPOMENI AND YPOGEGRAMMENI",
    "1fb8 GREEK CAPITAL LETTER ALPHA WITH VRACHY;GREEK CAPITAL LETTER ALPHA WITH MACRON",
    "1fba GREEK CAPITAL LETTER ALPHA WITH VARIA;GREEK CAPITAL LETTER ALPHA WITH OXIA",
    "1fbc GREEK CAPITAL LETTER ALPHA WITH PROSGEGRAMMENI;GREEK KORONIS;GREEK PROSGEGRAMMENI",
    "1fbf GREEK PSILI;GREEK PERISPOMENI;GREEK DIALYTIKA AND PERISPOMENI",
    "1fc2 GREEK SMALL LETTER ETA WITH VARIA AND YPOGEGRAMMENI",
    "1fc3 GREEK SMALL LETTER ETA WITH YPOGEGRAMMENI",
    "1fc4 GREEK SMALL LETTER ETA WITH OXIA AND YPOGEGRAMMENI",
    "1fc6 GREEK SMALL LETTER ETA WITH PERISPOMENI",
    "1fc7 GREEK SMALL LETTER ETA WITH PERISPOMENI AND YPOGEGRAMMENI",
    "1fc8 GREEK CAPITAL LETTER EPSILON WITH VARIA;GREEK CAPITAL LETTER EPSILON WITH OXIA",
    "1fca GREEK CAPITAL LETTER ETA WITH VARIA;GREEK CAPITAL LETTER ETA WITH OXIA",
    "1fcc GREEK CAPITAL LETTER ETA WITH PROSGEGRAMMENI;GREEK PSILI AND VARIA",
    "1fce GREEK PSILI AND OXIA;GREEK PSILI AND PERISPOMENI;GREEK SMALL LETTER IOTA WITH VRACHY",
    "1fd1 GREEK SMALL LETTER IOTA WITH MACRON;GREEK SMALL LETTER IOTA WITH DIALYTIKA AND VARIA",
    "1fd3 GREEK SMALL LETTER IOTA WITH DIALYTIKA AND OXIA",
    "1fd6 GREEK SMALL LETTER IOTA WITH PERISPOMENI",
    "1fd7 GREEK SMALL LETTER IOTA WITH DIALYTIKA AND PERISPOMENI",
    "1fd8 GREEK CAPITAL LETTER IOTA WITH VRACHY;GREEK CAPITAL LETTER IOTA WITH MACRON",
    "1fda GREEK CAPITAL LETTER IOTA WITH VARIA;GREEK CAPITAL LETTER IOTA WITH OXIA",
    "1fdd GREEK DASIA AND VARIA;GREEK DASIA AND OXIA;GREEK DASIA AND PERISPOMENI",
    "1fe0 GREEK SMALL LETTER UPSILON WITH VRACHY;GREEK SMALL LETTER UPSILON WITH MACRON"]

/-- The names from U+1FE2 to U+FB4E. -/
def letterNamesF : List String :=
  ["1fe2 GREEK SMALL LETTER UPSILON WITH DIALYTIKA AND VARIA",
    "1fe3 GREEK SMALL LETTER UPSILON WITH DIALYTIKA AND OXIA;GREEK SMALL LETTER RHO WITH PSILI",
    "1fe5 GREEK SMALL LETTER RHO WITH DASIA;GREEK SMALL LETTER UPSILON WITH PERISPOMENI",
    "1fe7 GREEK SMALL LETTER UPSILON WITH DIALYTIKA AND PERISPOMENI",
    "1fe8 GREEK CAPITAL LETTER UPSILON WITH VRACHY;GREEK CAPITAL LETTER UPSILON WITH MACRON",
    "1fea GREEK CAPITAL LETTER UPSILON WITH VARIA;GREEK CAPITAL LETTER UPSILON WITH OXIA",
    "1fec GREEK CAPITAL LETTER RHO WITH DASIA;GREEK DIALYTIKA AND VARIA",
    "1fee GREEK DIALYTIKA AND OXIA;GREEK VARIA",
    "1ff2 GREEK SMALL LETTER OMEGA WITH VARIA AND YPOGEGRAMMENI",
    "1ff3 GREEK SMALL LETTER OMEGA WITH YPOGEGRAMMENI",
    "1ff4 GREEK SMALL LETTER OMEGA WITH OXIA AND YPOGEGRAMMENI",
    "1ff6 GREEK SMALL LETTER OMEGA WITH PERISPOMENI",
    "1ff7 GREEK SMALL LETTER OMEGA WITH PERISPOMENI AND YPOGEGRAMMENI",
    "1ff8 GREEK CAPITAL LETTER OMICRON WITH VARIA;GREEK CAPITAL LETTER OMICRON WITH OXIA",
    "1ffa GREEK CAPITAL LETTER OMEGA WITH VARIA;GREEK CAPITAL LETTER OMEGA WITH OXIA",
    "1ffc GREEK CAPITAL LETTER OMEGA WITH PROSGEGRAMMENI;GREEK OXIA;GREEK DASIA",
    "2c60 LATIN CAPITAL LETTER L WITH DOUBLE BAR;LATIN SMALL LETTER L WITH DOUBLE BAR",
    "2c62 LATIN CAPITAL LETTER L WITH MIDDLE TILDE;LATIN CAPITAL LETTER P WITH STROKE",
    "2c64 LATIN CAPITAL LETTER R WITH TAIL;LATIN SMALL LETTER A WITH STROKE",
    "2c66 LATIN SMALL LETTER T WITH DIAGONAL STROKE;LATIN CAPITAL LETTER H WITH DESCENDER",
    "2c68 LATIN SMALL LETTER H WITH DESCENDER;LATIN CAPITAL LETTER K WITH DESCENDER",
    "2c6a LATIN SMALL LETTER K WITH DESCENDER;LATIN CAPITAL LETTER Z WITH DESCENDER",
    "2c6c LATIN SMALL LETTER Z WITH DESCENDER;LATIN CAPITAL LETTER ALPHA",
    "2c6e LATIN CAPITAL LETTER M WITH HOOK;LATIN CAPITAL LETTER TURNED A",
    "2c70 LATIN CAPITAL LETTER TURNED ALPHA;LATIN SMALL LETTER V WITH RIGHT HOOK",
    "2c72 LATIN CAPITAL LETTER W WITH HOOK;LATIN SMALL LETTER W WITH HOOK",
    "2c74 LATIN SMALL LETTER V WITH CURL;LATIN CAPITAL LETTER HALF H;LATIN SMALL LETTER HALF H",
    "2c77 LATIN SMALL LETTER TAILLESS PHI;LATIN SMALL LETTER E WITH NOTCH",
    "2c79 LATIN SMALL LETTER TURNED R WITH TAIL;LATIN SMALL LETTER O WITH LOW RING INSIDE",
    "2c7b LATIN LETTER SMALL CAPITAL TURNED E;LATIN SUBSCRIPT SMALL LETTER J",
    "2c7d MODIFIER LETTER CAPITAL V;LATIN CAPITAL LETTER S WITH SWASH TAIL",
    "2c7f LATIN CAPITAL LETTER Z WITH SWASH TAIL",
    "3041 HIRAGANA LETTER SMALL A;HIRAGANA LETTER A;HIRAGANA LETTER SMALL I;HIRAGANA LETTER I",
    "3045 HIRAGANA LETTER SMALL U;HIRAGANA LETTER U;HIRAGANA LETTER SMALL E;HIRAGANA LETTER E",
    "3049 HIRAGANA LETTER SMALL O;HIRAGANA LETTER O;HIRAGANA LETTER KA;HIRAGANA LETTER GA",
    "304d HIRAGANA LETTER KI;HIRAGANA LETTER GI;HIRAGANA LETTER KU;HIRAGANA LETTER GU",
    "3051 HIRAGANA LETTER KE;HIRAGANA LETTER GE;HIRAGANA LETTER KO;HIRAGANA LETTER GO",
    "3055 HIRAGANA LETTER SA;HIRAGANA LETTER ZA;HIRAGANA LETTER SI;HIRAGANA LETTER ZI",
    "3059 HIRAGANA LETTER SU;HIRAGANA LETTER ZU;HIRAGANA LETTER SE;HIRAGANA LETTER ZE",
    "305d HIRAGANA LETTER SO;HIRAGANA LETTER ZO;HIRAGANA LETTER TA;HIRAGANA LETTER DA",
    "3061 HIRAGANA LETTER TI;HIRAGANA LETTER DI;HIRAGANA LETTER SMALL TU;HIRAGANA LETTER TU",
    "3065 HIRAGANA LETTER DU;HIRAGANA LETTER TE;HIRAGANA LETTER DE;HIRAGANA LETTER TO",
    "3069 HIRAGANA LETTER DO;HIRAGANA LETTER NA;HIRAGANA LETTER NI;HIRAGANA LETTER NU",
    "306d HIRAGANA LETTER NE;HIRAGANA LETTER NO;HIRAGANA LETTER HA;HIRAGANA LETTER BA",
    "3071 HIRAGANA LETTER PA;HIRAGANA LETTER HI;HIRAGANA LETTER BI;HIRAGANA LETTER PI",
    "3075 HIRAGANA LETTER HU;HIRAGANA LETTER BU;HIRAGANA LETTER PU;HIRAGANA LETTER HE",
    "3079 HIRAGANA LETTER BE;HIRAGANA LETTER PE;HIRAGANA LETTER HO;HIRAGANA LETTER BO",
    "307d HIRAGANA LETTER PO;HIRAGANA LETTER MA;HIRAGANA LETTER MI;HIRAGANA LETTER MU",
    "3081 HIRAGANA LETTER ME;HIRAGANA LETTER MO;HIRAGANA LETTER SMALL YA;HIRAGANA LETTER YA",
    "3085 HIRAGANA LETTER SMALL YU;HIRAGANA LETTER YU;HIRAGANA LETTER SMALL YO",
    "3088 HIRAGANA LETTER YO;HIRAGANA LETTER RA;HIRAGANA LETTER RI;HIRAGANA LETTER RU",
    "308c HIRAGANA LETTER RE;HIRAGANA LETTER RO;HIRAGANA LETTER SMALL WA;HIRAGANA LETTER WA",
    "3090 HIRAGANA LETTER WI;HIRAGANA LETTER WE;HIRAGANA LETTER WO;HIRAGANA LETTER N",
    "3094 HIRAGANA LETTER VU;HIRAGANA LETTER SMALL KA;HIRAGANA LETTER SMALL KE",
    "3099 COMBINING KATAKANA-HIRAGANA VOICED SOUND MARK",
    "309a COMBINING KATAKANA-HIRAGANA SEMI-VOICED SOUND MARK",
    "309b KATAKANA-HIRAGANA VOICED SOUND MARK;KATAKANA-HIRAGANA SEMI-VOICED SOUND MARK",
    "309d HIRAGANA ITERATION MARK;HIRAGANA VOICED ITERATION MARK;HIRAGANA DIGRAPH YORI",
    "30a0 KATAKANA-HIRAGANA DOUBLE HYPHEN;KATAKANA LETTER SMALL A;KATAKANA LETTER A",
    "30a3 KATAKANA LETTER SMALL I;KATAKANA LETTER I;KATAKANA LETTER SMALL U;KATAKANA LETTER U",
    "30a7 KATAKANA LETTER SMALL E;KATAKANA LETTER E;KATAKANA LETTER SMALL O;KATAKANA LETTER O",
    "30ab KATAKANA LETTER KA;KATAKANA LETTER GA;KATAKANA LETTER KI;KATAKANA LETTER GI",
    "30af KATAKANA LETTER KU;KATAKANA LETTER GU;KATAKANA LETTER KE;KATAKANA LETTER GE",
    "30b3 KATAKANA LETTER KO;KATAKANA LETTER GO;KATAKANA LETTER SA;KATAKANA LETTER ZA",
    "30b7 KATAKANA LETTER SI;KATAKANA LETTER ZI;KATAKANA LETTER SU;KATAKANA LETTER ZU",
    "30bb KATAKANA LETTER SE;KATAKANA LETTER ZE;KATAKANA LETTER SO;KATAKANA LETTER ZO",
    "30bf KATAKANA LETTER TA;KATAKANA LETTER DA;KATAKANA LETTER TI;KATAKANA LETTER DI",
    "30c3 KATAKANA LETTER SMALL TU;KATAKANA LETTER TU;KATAKANA LETTER DU;KATAKANA LETTER TE",
    "30c7 KATAKANA LETTER DE;KATAKANA LETTER TO;KATAKANA LETTER DO;KATAKANA LETTER NA",
    "30cb KATAKANA LETTER NI;KATAKANA LETTER NU;KATAKANA LETTER NE;KATAKANA LETTER NO",
    "30cf KATAKANA LETTER HA;KATAKANA LETTER BA;KATAKANA LETTER PA;KATAKANA LETTER HI",
    "30d3 KATAKANA LETTER BI;KATAKANA LETTER PI;KATAKANA LETTER HU;KATAKANA LETTER BU",
    "30d7 KATAKANA LETTER PU;KATAKANA LETTER HE;KATAKANA LETTER BE;KATAKANA LETTER PE",
    "30db KATAKANA LETTER HO;KATAKANA LETTER BO;KATAKANA LETTER PO;KATAKANA LETTER MA",
    "30df KATAKANA LETTER MI;KATAKANA LETTER MU;KATAKANA LETTER ME;KATAKANA LETTER MO",
    "30e3 KATAKANA LETTER SMALL YA;KATAKANA LETTER YA;KATAKANA LETTER SMALL YU",
    "30e6 KATAKANA LETTER YU;KATAKANA LETTER SMALL YO;KATAKANA LETTER YO;KATAKANA LETTER RA",
    "30ea KATAKANA LETTER RI;KATAKANA LETTER RU;KATAKANA LETTER RE;KATAKANA LETTER RO",
    "30ee KATAKANA LETTER SMALL WA;KATAKANA LETTER WA;KATAKANA LETTER WI;KATAKANA LETTER WE",
    "30f2 KATAKANA LETTER WO;KATAKANA LETTER N;KATAKANA LETTER VU;KATAKANA LETTER SMALL KA",
    "30f6 KATAKANA LETTER SMALL KE;KATAKANA LETTER VA;KATAKANA LETTER VI;KATAKANA LETTER VE",
    "30fa KATAKANA LETTER VO;KATAKANA MIDDLE DOT;KATAKANA-HIRAGANA PROLONGED SOUND MARK",
    "30fd KATAKANA ITERATION MARK;KATAKANA VOICED ITERATION MARK;KATAKANA DIGRAPH KOTO",
    "a640 CYRILLIC CAPITAL LETTER ZEMLYA;CYRILLIC SMALL LETTER ZEMLYA",
    "a642 CYRILLIC CAPITAL LETTER DZELO;CYRILLIC SMALL LETTER DZELO",
    "a644 CYRILLIC CAPITAL LETTER REVERSED DZE;CYRILLIC SMALL LETTER REVERSED DZE",
    "a646 CYRILLIC CAPITAL LETTER IOTA;CYRILLIC SMALL LETTER IOTA;CYRILLIC CAPITAL LETTER DJERV",
    "a649 CYRILLIC SMALL LETTER DJERV;CYRILLIC CAPITAL LETTER MONOGRAPH UK",
    "a64b CYRILLIC SMALL LETTER MONOGRAPH UK;CYRILLIC CAPITAL LETTER BROAD OMEGA",
    "a64d CYRILLIC SMALL LETTER BROAD OMEGA;CYRILLIC CAPITAL LETTER NEUTRAL YER",
    "a64f CYRILLIC SMALL LETTER NEUTRAL YER;CYRILLIC CAPITAL LETTER YERU WITH BACK YER",
    "a651 CYRILLIC SMALL LETTER YERU WITH BACK YER;CYRILLIC CAPITAL LETTER IOTIFIED YAT",
    "a653 CYRILLIC SMALL LETTER IOTIFIED YAT;CYRILLIC CAPITAL LETTER REVERSED YU",
    "a655 CYRILLIC SMALL LETTER REVERSED YU;CYRILLIC CAPITAL LETTER IOTIFIED A",
    "a657 CYRILLIC SMALL LETTER IOTIFIED A;CYRILLIC CAPITAL LETTER CLOSED LITTLE YUS",
    "a659 CYRILLIC SMALL LETTER CLOSED LITTLE YUS;CYRILLIC CAPITAL LETTER BLENDED YUS",
    "a65b CYRILLIC SMALL LETTER BLENDED YUS;CYRILLIC CAPITAL LETTER IOTIFIED CLOSED LITTLE YUS",
    "a65d CYRILLIC SMALL LETTER IOTIFIED CLOSED LITTLE YUS;CYRILLIC CAPITAL LETTER YN",
    "a65f CYRILLIC SMALL LETTER YN;CYRILLIC CAPITAL LETTER REVERSED TSE",
    "a661 CYRILLIC SMALL LETTER REVERSED TSE;CYRILLIC CAPITAL LETTER SOFT DE",
    "a663 CYRILLIC SMALL LETTER SOFT DE;CYRILLIC CAPITAL LETTER SOFT EL",
    "a665 CYRILLIC SMALL LETTER SOFT EL;CYRILLIC CAPITAL LETTER SOFT EM",
    "a667 CYRILLIC SMALL LETTER SOFT EM;CYRILLIC CAPITAL LETTER MONOCULAR O",
    "a669 CYRILLIC SMALL LETTER MONOCULAR O;CYRILLIC CAPITAL LETTER BINOCULAR O",
    "a66b CYRILLIC SMALL LETTER BINOCULAR O;CYRILLIC CAPITAL LETTER DOUBLE MONOCULAR O",
    "a66d CYRILLIC SMALL LETTER DOUBLE MONOCULAR O;CYRILLIC LETTER MULTIOCULAR O",
    "a66f COMBINING CYRILLIC VZMET;COMBINING CYRILLIC TEN MILLIONS SIGN",
    "a671 COMBINING CYRILLIC HUNDRED MILLIONS SIGN;COMBINING CYRILLIC THOUSAND MILLIONS SIGN",
    "a673 SLAVONIC ASTERISK;COMBINING CYRILLIC LETTER UKRAINIAN IE;COMBINING CYRILLIC LETTER I",
    "a676 COMBINING CYRILLIC LETTER YI;COMBINING CYRILLIC LETTER U",
    "a678 COMBINING CYRILLIC LETTER HARD SIGN;COMBINING CYRILLIC LETTER YERU",
    "a67a COMBINING CYRILLIC LETTER SOFT SIGN;COMBINING CYRILLIC LETTER OMEGA",
    "a67c COMBINING CYRILLIC KAVYKA;COMBINING CYRILLIC PAYEROK;CYRILLIC KAVYKA;CYRILLIC PAYEROK",
    "a680 CYRILLIC CAPITAL LETTER DWE;CYRILLIC SMALL LETTER DWE;CYRILLIC CAPITAL LETTER DZWE",
    "a683 CYRILLIC SMALL LETTER DZWE;CYRILLIC CAPITAL LETTER ZHWE;CYRILLIC SMALL LETTER ZHWE",
    "a686 CYRILLIC CAPITAL LETTER CCHE;CYRILLIC SMALL LETTER CCHE;CYRILLIC CAPITAL LETTER DZZE",
    "a689 CYRILLIC SMALL LETTER DZZE;CYRILLIC CAPITAL LETTER TE WITH MIDDLE HOOK",
    "a68b CYRILLIC SMALL LETTER TE WITH MIDDLE HOOK;CYRILLIC CAPITAL LETTER TWE",
    "a68d CYRILLIC SMALL LETTER TWE;CYRILLIC CAPITAL LETTER TSWE;CYRILLIC SMALL LETTER TSWE",
    "a690 CYRILLIC CAPITAL LETTER TSSE;CYRILLIC SMALL LETTER TSSE;CYRILLIC CAPITAL LETTER TCHE",
    "a693 CYRILLIC SMALL LETTER TCHE;CYRILLIC CAPITAL LETTER HWE;CYRILLIC SMALL LETTER HWE",
    "a696 CYRILLIC CAPITAL LETTER SHWE;CYRILLIC SMALL LETTER SHWE",
    "a698 CYRILLIC CAPITAL LETTER DOUBLE O;CYRILLIC SMALL LETTER DOUBLE O",
    "a69a CYRILLIC CAPITAL LETTER CROSSED O;CYRILLIC SMALL LETTER CROSSED O",
    "a69c MODIFIER LETTER CYRILLIC HARD SIGN;MODIFIER LETTER CYRILLIC SOFT SIGN",
    "a69e COMBINING CYRILLIC LETTER EF;COMBINING CYRILLIC LETTER IOTIFIED E",
    "a720 MODIFIER LETTER STRESS AND HIGH TONE;MODIFIER LETTER STRESS AND LOW TONE",
    "a722 LATIN CAPITAL LETTER EGYPTOLOGICAL ALEF;LATIN SMALL LETTER EGYPTOLOGICAL ALEF",
    "a724 LATIN CAPITAL LETTER EGYPTOLOGICAL AIN;LATIN SMALL LETTER EGYPTOLOGICAL AIN",
    "a726 LATIN CAPITAL LETTER HENG;LATIN SMALL LETTER HENG;LATIN CAPITAL LETTER TZ",
    "a729 LATIN SMALL LETTER TZ;LATIN CAPITAL LETTER TRESILLO;LATIN SMALL LETTER TRESILLO",
    "a72c LATIN CAPITAL LETTER CUATRILLO;LATIN SMALL LETTER CUATRILLO",
    "a72e LATIN CAPITAL LETTER CUATRILLO WITH COMMA;LATIN SMALL LETTER CUATRILLO WITH COMMA",
    "a730 LATIN LETTER SMALL CAPITAL F;LATIN LETTER SMALL CAPITAL S;LATIN CAPITAL LETTER AA",
    "a733 LATIN SMALL LETTER AA;LATIN CAPITAL LETTER AO;LATIN SMALL LETTER AO",
    "a736 LATIN CAPITAL LETTER AU;LATIN SMALL LETTER AU;LATIN CAPITAL LETTER AV",
    "a739 LATIN SMALL LETTER AV;LATIN CAPITAL LETTER AV WITH HORIZONTAL BAR",
    "a73b LATIN SMALL LETTER AV WITH HORIZONTAL BAR;LATIN CAPITAL LETTER AY",
    "a73d LATIN SMALL LETTER AY;LATIN CAPITAL LETTER REVERSED C WITH DOT",
    "a73f LATIN SMALL LETTER REVERSED C WITH DOT;LATIN CAPITAL LETTER K WITH STROKE",
    "a741 LATIN SMALL LETTER K WITH STROKE;LATIN CAPITAL LETTER K WITH DIAGONAL STROKE",
    "a743 LATIN SMALL LETTER K WITH DIAGONAL STROKE",
    "a744 LATIN CAPITAL LETTER K WITH STROKE AND DIAGONAL STROKE",
    "a745 LATIN SMALL LETTER K WITH STROKE AND DIAGONAL STROKE;LATIN CAPITAL LETTER BROKEN L",
    "a747 LATIN SMALL LETTER BROKEN L;LATIN CAPITAL LETTER L WITH HIGH STROKE",
    "a749 LATIN SMALL LETTER L WITH HIGH STROKE;LATIN CAPITAL LETTER O WITH LONG STROKE OVERLAY",
    "a74b LATIN SMALL LETTER O WITH LONG STROKE OVERLAY;LATIN CAPITAL LETTER O WITH LOOP",
    "a74d LATIN SMALL LETTER O WITH LOOP;LATIN CAPITAL LETTER OO;LATIN SMALL LETTER OO",
    "a750 LATIN CAPITAL LETTER P WITH STROKE THROUGH DESCENDER",
    "a751 LATIN SMALL LETTER P WITH STROKE THROUGH DESCENDER",
    "a752 LATIN CAPITAL LETTER P WITH FLOURISH;LATIN SMALL LETTER P WITH FLOURISH",
    "a754 LATIN CAPITAL LETTER P WITH SQUIRREL TAIL;LATIN SMALL LETTER P WITH SQUIRREL TAIL",
    "a756 LATIN CAPITAL LETTER Q WITH STROKE THROUGH DESCENDER",
    "a757 LATIN SMALL LETTER Q WITH STROKE THROUGH DESCENDER",
    "a758 LATIN CAPITAL LETTER Q WITH DIAGONAL STROKE;LATIN SMALL LETTER Q WITH DIAGONAL STROKE",
    "a75a LATIN CAPITAL LETTER R ROTUNDA;LATIN SMALL LETTER R ROTUNDA",
    "a75c LATIN CAPITAL LETTER RUM ROTUNDA;LATIN SMALL LETTER RUM ROTUNDA",
    "a75e LATIN CAPITAL LETTER V WITH DIAGONAL STROKE;LATIN SMALL LETTER V WITH DIAGONAL STROKE",
    "a760 LATIN CAPITAL LETTER VY;LATIN SMALL LETTER VY;LATIN CAPITAL LETTER VISIGOTHIC Z",
    "a763 LATIN SMALL LETTER VISIGOTHIC Z;LATIN CAPITAL LETTER THORN WITH STROKE",
    "a765 LATIN SMALL LETTER THORN WITH STROKE",
    "a766 LATIN CAPITAL LETTER THORN WITH STROKE THROUGH DESCENDER",
    "a767 LATIN SMALL LETTER THORN WITH STROKE THROUGH DESCENDER;LATIN CAPITAL LETTER VEND",
    "a769 LATIN SMALL LETTER VEND;LATIN CAPITAL LETTER ET;LATIN SMALL LETTER ET",
    "a76c LATIN CAPITAL LETTER IS;LATIN SMALL LETTER IS;LATIN CAPITAL LETTER CON",
    "a76f LATIN SMALL LETTER CON;MODIFIER LETTER US;LATIN SMALL LETTER DUM",
    "a772 LATIN SMALL LETTER LUM;LATIN SMALL LETTER MUM;LATIN SMALL LETTER NUM",
    "a775 LATIN SMALL LETTER RUM;LATIN LETTER SMALL CAPITAL RUM;LATIN SMALL LETTER TUM",
    "a778 LATIN SMALL LETTER UM;LATIN CAPITAL LETTER INSULAR D;LATIN SMALL LETTER INSULAR D",
    "a77b LATIN CAPITAL LETTER INSULAR F;LATIN SMALL LETTER INSULAR F",
    "a77d LATIN CAPITAL LETTER INSULAR G;LATIN CAPITAL LETTER TURNED INSULAR G",
    "a77f LATIN SMALL LETTER TURNED INSULAR G;LATIN CAPITAL LETTER TURNED L",
    "a781 LATIN SMALL LETTER TURNED L;LATIN CAPITAL LETTER INSULAR R",
    "a783 LATIN SMALL LETTER INSULAR R;LATIN CAPITAL LETTER INSULAR S",
    "a785 LATIN SMALL LETTER INSULAR S;LATIN CAPITAL LETTER INSULAR T",
    "a787 LATIN SMALL LETTER INSULAR T;MODIFIER LETTER LOW CIRCUMFLEX ACCENT",
    "a789 MODIFIER LETTER COLON;MODIFIER LETTER SHORT EQUALS SIGN;LATIN CAPITAL LETTER SALTILLO",
    "a78c LATIN SMALL LETTER SALTILLO;LATIN CAPITAL LETTER TURNED H",
    "a78e LATIN SMALL LETTER L WITH RETROFLEX HOOK AND BELT;LATIN LETTER SINOLOGICAL DOT",
    "a790 LATIN CAPITAL LETTER N WITH DESCENDER;LATIN SMALL LETTER N WITH DESCENDER",
    "a792 LATIN CAPITAL LETTER C WITH BAR;LATIN SMALL LETTER C WITH BAR",
    "a794 LATIN SMALL LETTER C WITH PALATAL HOOK;LATIN SMALL LETTER H WITH PALATAL HOOK",
    "a796 LATIN CAPITAL LETTER B WITH FLOURISH;LATIN SMALL LETTER B WITH FLOURISH",
    "a798 LATIN CAPITAL LETTER F WITH STROKE;LATIN SMALL LETTER F WITH STROKE",
    "a79a LATIN CAPITAL LETTER VOLAPUK AE;LATIN SMALL LETTER VOLAPUK AE",
    "a79c LATIN CAPITAL LETTER VOLAPUK OE;LATIN SMALL LETTER VOLAPUK OE",
    "a79e LATIN CAPITAL LETTER VOLAPUK UE;LATIN SMALL LETTER VOLAPUK UE",
    "a7a0 LATIN CAPITAL LETTER G WITH OBLIQUE STROKE;LATIN SMALL LETTER G WITH OBLIQUE STROKE",
    "a7a2 LATIN CAPITAL LETTER K WITH OBLIQUE STROKE;LATIN SMALL LETTER K WITH OBLIQUE STROKE",
    "a7a4 LATIN CAPITAL LETTER N WITH OBLIQUE STROKE;LATIN SMALL LETTER N WITH OBLIQUE STROKE",
    "a7a6 LATIN CAPITAL LETTER R WITH OBLIQUE STROKE;LATIN SMALL LETTER R WITH OBLIQUE STROKE",
    "a7a8 LATIN CAPITAL LETTER S WITH OBLIQUE STROKE;LATIN SMALL LETTER S WITH OBLIQUE STROKE",
    "a7aa LATIN CAPITAL LETTER H WITH HOOK;LATIN CAPITAL LETTER REVERSED OPEN E",
    "a7ac LATIN CAPITAL LETTER SCRIPT G;LATIN CAPITAL LETTER L WITH BELT",
    "a7ae LATIN CAPITAL LETTER SMALL CAPITAL I;LATIN LETTER SMALL CAPITAL Q",
    "a7b0 LATIN CAPITAL LETTER TURNED K;LATIN CAPITAL LETTER TURNED T",
    "a7b2 LATIN CAPITAL LETTER J WITH CROSSED-TAIL;LATIN CAPITAL LETTER CHI",
    "a7b4 LATIN CAPITAL LETTER BETA;LATIN SMALL LETTER BETA;LATIN CAPITAL LETTER OMEGA",
    "a7b7 LATIN SMALL LETTER OMEGA;LATIN CAPITAL LETTER U WITH STROKE",
    "a7b9 LATIN SMALL LETTER U WITH STROKE;LATIN CAPITAL LETTER GLOTTAL A",
    "a7bb LATIN SMALL LETTER GLOTTAL A;LATIN CAPITAL LETTER GLOTTAL I",
    "a7bd LATIN SMALL LETTER GLOTTAL I;LATIN CAPITAL LETTER GLOTTAL U",
    "a7bf LATIN SMALL LETTER GLOTTAL U;LATIN CAPITAL LETTER OLD POLISH O",
    "a7c1 LATIN SMALL LETTER OLD POLISH O;LATIN CAPITAL LETTER ANGLICANA W",
    "a7c3 LATIN SMALL LETTER ANGLICANA W;LATIN CAPITAL LETTER C WITH PALATAL HOOK",
    "a7c5 LATIN CAPITAL LETTER S WITH HOOK;LATIN CAPITAL LETTER Z WITH PALATAL HOOK",
    "a7c7 LATIN CAPITAL LETTER D WITH SHORT STROKE OVERLAY",
    "a7c8 LATIN SMALL LETTER D WITH SHORT STROKE OVERLAY",
    "a7c9 LATIN CAPITAL LETTER S WITH SHORT STROKE OVERLAY",
    "a7ca LATIN SMALL LETTER S WITH SHORT STROKE OVERLAY",
    "a7d0 LATIN CAPITAL LETTER CLOSED INSULAR G;LATIN SMALL LETTER CLOSED INSULAR G",
    "a7d3 LATIN SMALL LETTER DOUBLE THORN",
    "a7d5 LATIN SMALL LETTER DOUBLE WYNN;LATIN CAPITAL LETTER MIDDLE SCOTS S",
    "a7d7 LATIN SMALL LETTER MIDDLE SCOTS S;LATIN CAPITAL LETTER SIGMOID S",
    "a7d9 LATIN SMALL LETTER SIGMOID S",
    "a7f2 MODIFIER LETTER CAPITAL C;MODIFIER LETTER CAPITAL F;MODIFIER LETTER CAPITAL Q",
    "a7f5 LATIN CAPITAL LETTER REVERSED HALF H;LATIN SMALL LETTER REVERSED HALF H",
    "a7f7 LATIN EPIGRAPHIC LETTER SIDEWAYS I;MODIFIER LETTER CAPITAL H WITH STROKE",
    "a7f9 MODIFIER LETTER SMALL LIGATURE OE;LATIN LETTER SMALL CAPITAL TURNED M",
    "a7fb LATIN EPIGRAPHIC LETTER REVERSED F;LATIN EPIGRAPHIC LETTER REVERSED P",
    "a7fd LATIN EPIGRAPHIC LETTER INVERTED M;LATIN EPIGRAPHIC LETTER I LONGA",
    "a7ff LATIN EPIGRAPHIC LETTER ARCHAIC M",
    "fb00 LATIN SMALL LIGATURE FF;LATIN SMALL LIGATURE FI;LATIN SMALL LIGATURE FL",
    "fb03 LATIN SMALL LIGATURE FFI;LATIN SMALL LIGATURE FFL;LATIN SMALL LIGATURE LONG S T",
    "fb06 LATIN SMALL LIGATURE ST",
    "fb13 ARMENIAN SMALL LIGATURE MEN NOW;ARMENIAN SMALL LIGATURE MEN ECH",
    "fb15 ARMENIAN SMALL LIGATURE MEN INI;ARMENIAN SMALL LIGATURE VEW NOW",
    "fb17 ARMENIAN SMALL LIGATURE MEN XEH",
    "fb1d HEBREW LETTER YOD WITH HIRIQ;HEBREW POINT JUDEO-SPANISH VARIKA",
    "fb1f HEBREW LIGATURE YIDDISH YOD YOD PATAH;HEBREW LETTER ALTERNATIVE AYIN",
    "fb21 HEBREW LETTER WIDE ALEF;HEBREW LETTER WIDE DALET;HEBREW LETTER WIDE HE",
    "fb24 HEBREW LETTER WIDE KAF;HEBREW LETTER WIDE LAMED;HEBREW LETTER WIDE FINAL MEM",
    "fb27 HEBREW LETTER WIDE RESH;HEBREW LETTER WIDE TAV;HEBREW LETTER ALTERNATIVE PLUS SIGN",
    "fb2a HEBREW LETTER SHIN WITH SHIN DOT;HEBREW LETTER SHIN WITH SIN DOT",
    "fb2c HEBREW LETTER SHIN WITH DAGESH AND SHIN DOT",
    "fb2d HEBREW LETTER SHIN WITH DAGESH AND SIN DOT;HEBREW LETTER ALEF WITH PATAH",
    "fb2f HEBREW LETTER ALEF WITH QAMATS;HEBREW LETTER ALEF WITH MAPIQ",
    "fb31 HEBREW LETTER BET WITH DAGESH;HEBREW LETTER GIMEL WITH DAGESH",
    "fb33 HEBREW LETTER DALET WITH DAGESH;HEBREW LETTER HE WITH MAPIQ",
    "fb35 HEBREW LETTER VAV WITH DAGESH;HEBREW LETTER ZAYIN WITH DAGESH",
    "fb38 HEBREW LETTER TET WITH DAGESH;HEBREW LETTER YOD WITH DAGESH",
    "fb3a HEBREW LETTER FINAL KAF WITH DAGESH;HEBREW LETTER KAF WITH DAGESH",
    "fb3c HEBREW LETTER LAMED WITH DAGESH",
    "fb3e HEBREW LETTER MEM WITH DAGESH",
    "fb40 HEBREW LETTER NUN WITH DAGESH;HEBREW LETTER SAMEKH WITH DAGESH",
    "fb43 HEBREW LETTER FINAL PE WITH DAGESH;HEBREW LETTER PE WITH DAGESH",
    "fb46 HEBREW LETTER TSADI WITH DAGESH;HEBREW LETTER QOF WITH DAGESH",
    "fb48 HEBREW LETTER RESH WITH DAGESH;HEBREW LETTER SHIN WITH DAGESH",
    "fb4a HEBREW LETTER TAV WITH DAGESH;HEBREW LETTER VAV WITH HOLAM",
    "fb4c HEBREW LETTER BET WITH RAFE;HEBREW LETTER KAF WITH RAFE;HEBREW LETTER PE WITH RAFE"]

/-- The names from U+FB4F to U+FFEE. -/
def letterNamesG : List String :=
  ["fb4f HEBREW LIGATURE ALEF LAMED",
    "ff01 FULLWIDTH EXCLAMATION MARK;FULLWIDTH QUOTATION MARK;FULLWIDTH NUMBER SIGN",
    "ff04 FULLWIDTH DOLLAR SIGN;FULLWIDTH PERCENT SIGN;FULLWIDTH AMPERSAND;FULLWIDTH APOSTROPHE",
    "ff08 FULLWIDTH LEFT PARENTHESIS;FULLWIDTH RIGHT PARENTHESIS;FULLWIDTH ASTERISK",
    "ff0b FULLWIDTH PLUS SIGN;FULLWIDTH COMMA;FULLWIDTH HYPHEN-MINUS;FULLWIDTH FULL STOP",
    "ff0f FULLWIDTH SOLIDUS;FULLWIDTH DIGIT ZERO;FULLWIDTH DIGIT ONE;FULLWIDTH DIGIT TWO",
    "ff13 FULLWIDTH DIGIT THREE;FULLWIDTH DIGIT FOUR;FULLWIDTH DIGIT FIVE;FULLWIDTH DIGIT SIX",
    "ff17 FULLWIDTH DIGIT SEVEN;FULLWIDTH DIGIT EIGHT;FULLWIDTH DIGIT NINE;FULLWIDTH COLON",
    "ff1b FULLWIDTH SEMICOLON;FULLWIDTH LESS-THAN SIGN;FULLWIDTH EQUALS SIGN",
    "ff1e FULLWIDTH GREATER-THAN SIGN;FULLWIDTH QUESTION MARK;FULLWIDTH COMMERCIAL AT",
    "ff21 FULLWIDTH LATIN CAPITAL LETTER A;FULLWIDTH LATIN CAPITAL LETTER B",
    "ff23 FULLWIDTH LATIN CAPITAL LETTER C;FULLWIDTH LATIN CAPITAL LETTER D",
    "ff25 FULLWIDTH LATIN CAPITAL LETTER E;FULLWIDTH LATIN CAPITAL LETTER F",
    "ff27 FULLWIDTH LATIN CAPITAL LETTER G;FULLWIDTH LATIN CAPITAL LETTER H",
    "ff29 FULLWIDTH LATIN CAPITAL LETTER I;FULLWIDTH LATIN CAPITAL LETTER J",
    "ff2b FULLWIDTH LATIN CAPITAL LETTER K;FULLWIDTH LATIN CAPITAL LETTER L",
    "ff2d FULLWIDTH LATIN CAPITAL LETTER M;FULLWIDTH LATIN CAPITAL LETTER N",
    "ff2f FULLWIDTH LATIN CAPITAL LETTER O;FULLWIDTH LATIN CAPITAL LETTER P",
    "ff31 FULLWIDTH LATIN CAPITAL LETTER Q;FULLWIDTH LATIN CAPITAL LETTER R",
    "ff33 FULLWIDTH LATIN CAPITAL LETTER S;FULLWIDTH LATIN CAPITAL LETTER T",
    "ff35 FULLWIDTH LATIN CAPITAL LETTER U;FULLWIDTH LATIN CAPITAL LETTER V",
    "ff37 FULLWIDTH LATIN CAPITAL LETTER W;FULLWIDTH LATIN CAPITAL LETTER X",
    "ff39 FULLWIDTH LATIN CAPITAL LETTER Y;FULLWIDTH LATIN CAPITAL LETTER Z",
    "ff3b FULLWIDTH LEFT SQUARE BRACKET;FULLWIDTH REVERSE SOLIDUS",
    "ff3d FULLWIDTH RIGHT SQUARE BRACKET;FULLWIDTH CIRCUMFLEX ACCENT;FULLWIDTH LOW LINE",
    "ff40 FULLWIDTH GRAVE ACCENT;FULLWIDTH LATIN SMALL LETTER A;FULLWIDTH LATIN SMALL LETTER B",
    "ff43 FULLWIDTH LATIN SMALL LETTER C;FULLWIDTH LATIN SMALL LETTER D",
    "ff45 FULLWIDTH LATIN SMALL LETTER E;FULLWIDTH LATIN SMALL LETTER F",
    "ff47 FULLWIDTH LATIN SMALL LETTER G;FULLWIDTH LATIN SMALL LETTER H",
    "ff49 FULLWIDTH LATIN SMALL LETTER I;FULLWIDTH LATIN SMALL LETTER J",
    "ff4b FULLWIDTH LATIN SMALL LETTER K;FULLWIDTH LATIN SMALL LETTER L",
    "ff4d FULLWIDTH LATIN SMALL LETTER M;FULLWIDTH LATIN SMALL LETTER N",
    "ff4f FULLWIDTH LATIN SMALL LETTER O;FULLWIDTH LATIN SMALL LETTER P",
    "ff51 FULLWIDTH LATIN SMALL LETTER Q;FULLWIDTH LATIN SMALL LETTER R",
    "ff53 FULLWIDTH LATIN SMALL LETTER S;FULLWIDTH LATIN SMALL LETTER T",
    "ff55 FULLWIDTH LATIN SMALL LETTER U;FULLWIDTH LATIN SMALL LETTER V",
    "ff57 FULLWIDTH LATIN SMALL LETTER W;FULLWIDTH LATIN SMALL LETTER X",
    "ff59 FULLWIDTH LATIN SMALL LETTER Y;FULLWIDTH LATIN SMALL LETTER Z",
    "ff5b FULLWIDTH LEFT CURLY BRACKET;FULLWIDTH VERTICAL LINE;FULLWIDTH RIGHT CURLY BRACKET",
    "ff5e FULLWIDTH TILDE;FULLWIDTH LEFT WHITE PARENTHESIS;FULLWIDTH RIGHT WHITE PARENTHESIS",
    "ff61 HALFWIDTH IDEOGRAPHIC FULL STOP;HALFWIDTH LEFT CORNER BRACKET",
    "ff63 HALFWIDTH RIGHT CORNER BRACKET;HALFWIDTH IDEOGRAPHIC COMMA",
    "ff65 HALFWIDTH KATAKANA MIDDLE DOT;HALFWIDTH KATAKANA LETTER WO",
    "ff67 HALFWIDTH KATAKANA LETTER SMALL A;HALFWIDTH KATAKANA LETTER SMALL I",
    "ff69 HALFWIDTH KATAKANA LETTER SMALL U;HALFWIDTH KATAKANA LETTER SMALL E",
    "ff6b HALFWIDTH KATAKANA LETTER SMALL O;HALFWIDTH KATAKANA LETTER SMALL YA",
    "ff6d HALFWIDTH KATAKANA LETTER SMALL YU;HALFWIDTH KATAKANA LETTER SMALL YO",
    "ff6f HALFWIDTH KATAKANA LETTER SMALL TU;HALFWIDTH KATAKANA-HIRAGANA PROLONGED SOUND MARK",
    "ff71 HALFWIDTH KATAKANA LETTER A;HALFWIDTH KATAKANA LETTER I;HALFWIDTH KATAKANA LETTER U",
    "ff74 HALFWIDTH KATAKANA LETTER E;HALFWIDTH KATAKANA LETTER O;HALFWIDTH KATAKANA LETTER KA",
    "ff77 HALFWIDTH KATAKANA LETTER KI;HALFWIDTH KATAKANA LETTER KU",
    "ff79 HALFWIDTH KATAKANA LETTER KE;HALFWIDTH KATAKANA LETTER KO",
    "ff7b HALFWIDTH KATAKANA LETTER SA;HALFWIDTH KATAKANA LETTER SI",
    "ff7d HALFWIDTH KATAKANA LETTER SU;HALFWIDTH KATAKANA LETTER SE",
    "ff7f HALFWIDTH KATAKANA LETTER SO;HALFWIDTH KATAKANA LETTER TA",
    "ff81 HALFWIDTH KATAKANA LETTER TI;HALFWIDTH KATAKANA LETTER TU",
    "ff83 HALFWIDTH KATAKANA LETTER TE;HALFWIDTH KATAKANA LETTER TO",
    "ff85 HALFWIDTH KATAKANA LETTER NA;HALFWIDTH KATAKANA LETTER NI",
    "ff87 HALFWIDTH KATAKANA LETTER NU;HALFWIDTH KATAKANA LETTER NE",
    "ff89 HALFWIDTH KATAKANA LETTER NO;HALFWIDTH KATAKANA LETTER HA",
    "ff8b HALFWIDTH KATAKANA LETTER HI;HALFWIDTH KATAKANA LETTER HU",
    "ff8d HALFWIDTH KATAKANA LETTER HE;HALFWIDTH KATAKANA LETTER HO",
    "ff8f HALFWIDTH KATAKANA LETTER MA;HALFWIDTH KATAKANA LETTER MI",
    "ff91 HALFWIDTH KATAKANA LETTER MU;HALFWIDTH KATAKANA LETTER ME",
    "ff93 HALFWIDTH KATAKANA LETTER MO;HALFWIDTH KATAKANA LETTER YA",
    "ff95 HALFWIDTH KATAKANA LETTER YU;HALFWIDTH KATAKANA LETTER YO",
    "ff97 HALFWIDTH KATAKANA LETTER RA;HALFWIDTH KATAKANA LETTER RI",
    "ff99 HALFWIDTH KATAKANA LETTER RU;HALFWIDTH KATAKANA LETTER RE",
    "ff9b HALFWIDTH KATAKANA LETTER RO;HALFWIDTH KATAKANA LETTER WA;HALFWIDTH KATAKANA LETTER N",
    "ff9e HALFWIDTH KATAKANA VOICED SOUND MARK;HALFWIDTH KATAKANA SEMI-VOICED SOUND MARK",
    "ffa0 HALFWIDTH HANGUL FILLER;HALFWIDTH HANGUL LETTER KIYEOK",
    "ffa2 HALFWIDTH HANGUL LETTER SSANGKIYEOK;HALFWIDTH HANGUL LETTER KIYEOK-SIOS",
    "ffa4 HALFWIDTH HANGUL LETTER NIEUN;HALFWIDTH HANGUL LETTER NIEUN-CIEUC",
    "ffa6 HALFWIDTH HANGUL LETTER NIEUN-HIEUH;HALFWIDTH HANGUL LETTER TIKEUT",
    "ffa8 HALFWIDTH HANGUL LETTER SSANGTIKEUT;HALFWIDTH HANGUL LETTER RIEUL",
    "ffaa HALFWIDTH HANGUL LETTER RIEUL-KIYEOK;HALFWIDTH HANGUL LETTER RIEUL-MIEUM",
    "ffac HALFWIDTH HANGUL LETTER RIEUL-PIEUP;HALFWIDTH HANGUL LETTER RIEUL-SIOS",
    "ffae HALFWIDTH HANGUL LETTER RIEUL-THIEUTH;HALFWIDTH HANGUL LETTER RIEUL-PHIEUPH",
    "ffb0 HALFWIDTH HANGUL LETTER RIEUL-HIEUH;HALFWIDTH HANGUL LETTER MIEUM",
    "ffb2 HALFWIDTH HANGUL LETTER PIEUP;HALFWIDTH HANGUL LETTER SSANGPIEUP",
    "ffb4 HALFWIDTH HANGUL LETTER PIEUP-SIOS;HALFWIDTH HANGUL LETTER SIOS",
    "ffb6 HALFWIDTH HANGUL LETTER SSANGSIOS;HALFWIDTH HANGUL LETTER IEUNG",
    "ffb8 HALFWIDTH HANGUL LETTER CIEUC;HALFWIDTH HANGUL LETTER SSANGCIEUC",
    "ffba HALFWIDTH HANGUL LETTER CHIEUCH;HALFWIDTH HANGUL LETTER KHIEUKH",
    "ffbc HALFWIDTH HANGUL LETTER THIEUTH;HALFWIDTH HANGUL LETTER PHIEUPH",
    "ffbe HALFWIDTH HANGUL LETTER HIEUH",
    "ffc2 HALFWIDTH HANGUL LETTER A;HALFWIDTH HANGUL LETTER AE;HALFWIDTH HANGUL LETTER YA",
    "ffc5 HALFWIDTH HANGUL LETTER YAE;HALFWIDTH HANGUL LETTER EO;HALFWIDTH HANGUL LETTER E",
    "ffca HALFWIDTH HANGUL LETTER YEO;HALFWIDTH HANGUL LETTER YE;HALFWIDTH HANGUL LETTER O",
    "ffcd HALFWIDTH HANGUL LETTER WA;HALFWIDTH HANGUL LETTER WAE;HALFWIDTH HANGUL LETTER OE",
    "ffd2 HALFWIDTH HANGUL LETTER YO;HALFWIDTH HANGUL LETTER U;HALFWIDTH HANGUL LETTER WEO",
    "ffd5 HALFWIDTH HANGUL LETTER WE;HALFWIDTH HANGUL LETTER WI;HALFWIDTH HANGUL LETTER YU",
    "ffda HALFWIDTH HANGUL LETTER EU;HALFWIDTH HANGUL LETTER YI;HALFWIDTH HANGUL LETTER I",
    "ffe0 FULLWIDTH CENT SIGN;FULLWIDTH POUND SIGN;FULLWIDTH NOT SIGN;FULLWIDTH MACRON",
    "ffe4 FULLWIDTH BROKEN BAR;FULLWIDTH YEN SIGN;FULLWIDTH WON SIGN",
    "ffe8 HALFWIDTH FORMS LIGHT VERTICAL;HALFWIDTH LEFTWARDS ARROW;HALFWIDTH UPWARDS ARROW",
    "ffeb HALFWIDTH RIGHTWARDS ARROW;HALFWIDTH DOWNWARDS ARROW;HALFWIDTH BLACK SQUARE",
    "ffee HALFWIDTH WHITE CIRCLE"]

end ClientGen.Text
