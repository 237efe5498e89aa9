/-!
# Names of pictures

The names of game tiles, enclosed letters, emoji and further pictures.
-/

namespace ClientGen.Text

/-- The names from U+1F000 to U+1F3D0. -/
def pictureNamesA : List String :=
  ["1f000 MAHJONG TILE EAST WIND;MAHJONG TILE SOUTH WIND;MAHJONG TILE WEST WIND",
    "1f003 MAHJONG TILE NORTH WIND;MAHJONG TILE RED DRAGON;MAHJONG TILE GREEN DRAGON",
    "1f006 MAHJONG TILE WHITE DRAGON;MAHJONG TILE ONE OF CHARACTERS",
    "1f008 MAHJONG TILE TWO OF CHARACTERS;MAHJONG TILE THREE OF CHARACTERS",
    "1f00a MAHJONG TILE FOUR OF CHARACTERS;MAHJONG TILE FIVE OF CHARACTERS",
    "1f00c MAHJONG TILE SIX OF CHARACTERS;MAHJONG TILE SEVEN OF CHARACTERS",
    "1f00e MAHJONG TILE EIGHT OF CHARACTERS;MAHJONG TILE NINE OF CHARACTERS",
    "1f010 MAHJONG TILE ONE OF BAMBOOS;MAHJONG TILE TWO OF BAMBOOS",
    "1f012 MAHJONG TILE THREE OF BAMBOOS;MAHJONG TILE FOUR OF BAMBOOS",
    "1f014 MAHJONG TILE FIVE OF BAMBOOS;MAHJONG TILE SIX OF BAMBOOS",
    "1f016 MAHJONG TILE SEVEN OF BAMBOOS;MAHJONG TILE EIGHT OF BAMBOOS",
    "1f018 MAHJONG TILE NINE OF BAMBOOS;MAHJONG TILE ONE OF CIRCLES;MAHJONG TILE TWO OF CIRCLES",
    "1f01b MAHJONG TILE THREE OF CIRCLES;MAHJONG TILE FOUR OF CIRCLES",
    "1f01d MAHJONG TILE FIVE OF CIRCLES;MAHJONG TILE SIX OF CIRCLES",
    "1f01f MAHJONG TILE SEVEN OF CIRCLES;MAHJONG TILE EIGHT OF CIRCLES",
    "1f021 MAHJONG TILE NINE OF CIRCLES;MAHJONG TILE PLUM;MAHJONG TILE ORCHID",
    "1f024 MAHJONG TILE BAMBOO;MAHJONG TILE CHRYSANTHEMUM;MAHJONG TILE SPRING",
    "1f027 MAHJONG TILE SUMMER;MAHJONG TILE AUTUMN;MAHJONG TILE WINTER;MAHJONG TILE JOKER",
    "1f02b MAHJONG TILE BACK",
    "1f030 DOMINO TILE HORIZONTAL BACK;DOMINO TILE HORIZONTAL-00-00",
    "1f032 DOMINO TILE HORIZONTAL-00-01;DOMINO TILE HORIZONTAL-00-02",
    "1f034 DOMINO TILE HORIZONTAL-00-03;DOMINO TILE HORIZONTAL-00-04",
    "1f036 DOMINO TILE HORIZONTAL-00-05;DOMINO TILE HORIZONTAL-00-06",
    "1f038 DOMINO TILE HORIZONTAL-01-00;DOMINO TILE HORIZONTAL-01-01",
    "1f03a DOMINO TILE HORIZONTAL-01-02;DOMINO TILE HORIZONTAL-01-03",
    "1f03c DOMINO TILE HORIZONTAL-01-04;DOMINO TILE HORIZONTAL-01-05",
    "1f03e DOMINO TILE HORIZONTAL-01-06;DOMINO TILE HORIZONTAL-02-00",
    "1f040 DOMINO TILE HORIZONTAL-02-01;DOMINO TILE HORIZONTAL-02-02",
    "1f042 DOMINO TILE HORIZONTAL-02-03;DOMINO TILE HORIZONTAL-02-04",
    "1f044 DOMINO TILE HORIZONTAL-02-05;DOMINO TILE HORIZONTAL-02-06",
    "1f046 DOMINO TILE HORIZONTAL-03-00;DOMINO TILE HORIZONTAL-03-01",
    "1f048 DOMINO TILE HORIZONTAL-03-02;DOMINO TILE HORIZONTAL-03-03",
    "1f04a DOMINO TILE HORIZONTAL-03-04;DOMINO TILE HORIZONTAL-03-05",
    "1f04c DOMINO TILE HORIZONTAL-03-06;DOMINO TILE HORIZONTAL-04-00",
    "1f04e DOMINO TILE HORIZONTAL-04-01;DOMINO TILE HORIZONTAL-04-02",
    "1f050 DOMINO TILE HORIZONTAL-04-03;DOMINO TILE HORIZONTAL-04-04",
    "1f052 DOMINO TILE HORIZONTAL-04-05;DOMINO TILE HORIZONTAL-04-06",
    "1f054 DOMINO TILE HORIZONTAL-05-00;DOMINO TILE HORIZONTAL-05-01",
    "1f056 DOMINO TILE HORIZONTAL-05-02;DOMINO TILE HORIZONTAL-05-03",
    "1f058 DOMINO TILE HORIZONTAL-05-04;DOMINO TILE HORIZONTAL-05-05",
    "1f05a DOMINO TILE HORIZONTAL-05-06;DOMINO TILE HORIZONTAL-06-00",
    "1f05c DOMINO TILE HORIZONTAL-06-01;DOMINO TILE HORIZONTAL-06-02",
    "1f05e DOMINO TILE HORIZONTAL-06-03;DOMINO TILE HORIZONTAL-06-04",
    "1f060 DOMINO TILE HORIZONTAL-06-05;DOMINO TILE HORIZONTAL-06-06;DOMINO TILE VERTICAL BACK",
    "1f063 DOMINO TILE VERTICAL-00-00;DOMINO TILE VERTICAL-00-01;DOMINO TILE VERTICAL-00-02",
    "1f066 DOMINO TILE VERTICAL-00-03;DOMINO TILE VERTICAL-00-04;DOMINO TILE VERTICAL-00-05",
    "1f069 DOMINO TILE VERTICAL-00-06;DOMINO TILE VERTICAL-01-00;DOMINO TILE VERTICAL-01-01",
    "1f06c DOMINO TILE VERTICAL-01-02;DOMINO TILE VERTICAL-01-03;DOMINO TILE VERTICAL-01-04",
    "1f06f DOMINO TILE VERTICAL-01-05;DOMINO TILE VERTICAL-01-06;DOMINO TILE VERTICAL-02-00",
    "1f072 DOMINO TILE VERTICAL-02-01;DOMINO TILE VERTICAL-02-02;DOMINO TILE VERTICAL-02-03",
    "1f075 DOMINO TILE VERTICAL-02-04;DOMINO TILE VERTICAL-02-05;DOMINO TILE VERTICAL-02-06",
    "1f078 DOMINO TILE VERTICAL-03-00;DOMINO TILE VERTICAL-03-01;DOMINO TILE VERTICAL-03-02",
    "1f07b DOMINO TILE VERTICAL-03-03;DOMINO TILE VERTICAL-03-04;DOMINO TILE VERTICAL-03-05",
    "1f07e DOMINO TILE VERTICAL-03-06;DOMINO TILE VERTICAL-04-00;DOMINO TILE VERTICAL-04-01",
    "1f081 DOMINO TILE VERTICAL-04-02;DOMINO TILE VERTICAL-04-03;DOMINO TILE VERTICAL-04-04",
    "1f084 DOMINO TILE VERTICAL-04-05;DOMINO TILE VERTICAL-04-06;DOMINO TILE VERTICAL-05-00",
    "1f087 DOMINO TILE VERTICAL-05-01;DOMINO TILE VERTICAL-05-02;DOMINO TILE VERTICAL-05-03",
    "1f08a DOMINO TILE VERTICAL-05-04;DOMINO TILE VERTICAL-05-05;DOMINO TILE VERTICAL-05-06",
    "1f08d DOMINO TILE VERTICAL-06-00;DOMINO TILE VERTICAL-06-01;DOMINO TILE VERTICAL-06-02",
    "1f090 DOMINO TILE VERTICAL-06-03;DOMINO TILE VERTICAL-06-04;DOMINO TILE VERTICAL-06-05",
    "1f093 DOMINO TILE VERTICAL-06-06",
    "1f0a0 PLAYING CARD BACK;PLAYING CARD ACE OF SPADES;PLAYING CARD TWO OF SPADES",
    "1f0a3 PLAYING CARD THREE OF SPADES;PLAYING CARD FOUR OF SPADES;PLAYING CARD FIVE OF SPADES",
    "1f0a6 PLAYING CARD SIX OF SPADES;PLAYING CARD SEVEN OF SPADES;PLAYING CARD EIGHT OF SPADES",
    "1f0a9 PLAYING CARD NINE OF SPADES;PLAYING CARD TEN OF SPADES;PLAYING CARD JACK OF SPADES",
    "1f0ac PLAYING CARD KNIGHT OF SPADES;PLAYING CARD QUEEN OF SPADES",
    "1f0ae PLAYING CARD KING OF SPADES",
    "1f0b1 PLAYING CARD ACE OF HEARTS;PLAYING CARD TWO OF HEARTS;PLAYING CARD THREE OF HEARTS",
    "1f0b4 PLAYING CARD FOUR OF HEARTS;PLAYING CARD FIVE OF HEARTS;PLAYING CARD SIX OF HEARTS",
    "1f0b7 PLAYING CARD SEVEN OF HEARTS;PLAYING CARD EIGHT OF HEARTS",
    "1f0b9 PLAYING CARD NINE OF HEARTS;PLAYING CARD TEN OF HEARTS;PLAYING CARD JACK OF HEARTS",
    "1f0bc PLAYING CARD KNIGHT OF HEARTS;PLAYING CARD QUEEN OF HEARTS",
    "1f0be PLAYING CARD KING OF HEARTS;PLAYING CARD RED JOKER",
    "1f0c1 PLAYING CARD ACE OF DIAMONDS;PLAYING CARD TWO OF DIAMONDS",
    "1f0c3 PLAYING CARD THREE OF DIAMONDS;PLAYING CARD FOUR OF DIAMONDS",
    "1f0c5 PLAYING CARD FIVE OF DIAMONDS;PLAYING CARD SIX OF DIAMONDS",
    "1f0c7 PLAYING CARD SEVEN OF DIAMONDS;PLAYING CARD EIGHT OF DIAMONDS",
    "1f0c9 PLAYING CARD NINE OF DIAMONDS;PLAYING CARD TEN OF DIAMONDS",
    "1f0cb PLAYING CARD JACK OF DIAMONDS;PLAYING CARD KNIGHT OF DIAMONDS",
    "1f0cd PLAYING CARD QUEEN OF DIAMONDS;PLAYING CARD KING OF DIAMONDS",
    "1f0cf PLAYING CARD BLACK JOKER",
    "1f0d1 PLAYING CARD ACE OF CLUBS;PLAYING CARD TWO OF CLUBS;PLAYING CARD THREE OF CLUBS",
    "1f0d4 PLAYING CARD FOUR OF CLUBS;PLAYING CARD FIVE OF CLUBS;PLAYING CARD SIX OF CLUBS",
    "1f0d7 PLAYING CARD SEVEN OF CLUBS;PLAYING CARD EIGHT OF CLUBS;PLAYING CARD NINE OF CLUBS",
    "1f0da PLAYING CARD TEN OF CLUBS;PLAYING CARD JACK OF CLUBS;PLAYING CARD KNIGHT OF CLUBS",
    "1f0dd PLAYING CARD QUEEN OF CLUBS;PLAYING CARD KING OF CLUBS;PLAYING CARD WHITE JOKER",
    "1f0e0 PLAYING CARD FOOL;PLAYING CARD TRUMP-1;PLAYING CARD TRUMP-2;PLAYING CARD TRUMP-3",
    "1f0e4 PLAYING CARD TRUMP-4;PLAYING CARD TRUMP-5;PLAYING CARD TRUMP-6;PLAYING CARD TRUMP-7",
    "1f0e8 PLAYING CARD TRUMP-8;PLAYING CARD TRUMP-9;PLAYING CARD TRUMP-10",
    "1f0eb PLAYING CARD TRUMP-11;PLAYING CARD TRUMP-12;PLAYING CARD TRUMP-13",
    "1f0ee PLAYING CARD TRUMP-14;PLAYING CARD TRUMP-15;PLAYING CARD TRUMP-16",
    "1f0f1 PLAYING CARD TRUMP-17;PLAYING CARD TRUMP-18;PLAYING CARD TRUMP-19",
    "1f0f4 PLAYING CARD TRUMP-20;PLAYING CARD TRUMP-21",
    "1f100 DIGIT ZERO FULL STOP;DIGIT ZERO COMMA;DIGIT ONE COMMA;DIGIT TWO COMMA",
    "1f104 DIGIT THREE COMMA;DIGIT FOUR COMMA;DIGIT FIVE COMMA;DIGIT SIX COMMA",
    "1f108 DIGIT SEVEN COMMA;DIGIT EIGHT COMMA;DIGIT NINE COMMA",
    "1f10b DINGBAT CIRCLED SANS-SERIF DIGIT ZERO;DINGBAT NEGATIVE CIRCLED SANS-SERIF DIGIT ZERO",
    "1f10d CIRCLED ZERO WITH SLASH;CIRCLED ANTICLOCKWISE ARROW",
    "1f10f CIRCLED DOLLAR SIGN WITH OVERLAID BACKSLASH;PARENTHESIZED LATIN CAPITAL LETTER A",
    "1f111 PARENTHESIZED LATIN CAPITAL LETTER B;PARENTHESIZED LATIN CAPITAL LETTER C",
    "1f113 PARENTHESIZED LATIN CAPITAL LETTER D;PARENTHESIZED LATIN CAPITAL LETTER E",
    "1f115 PARENTHESIZED LATIN CAPITAL LETTER F;PARENTHESIZED LATIN CAPITAL LETTER G",
    "1f117 PARENTHESIZED LATIN CAPITAL LETTER H;PARENTHESIZED LATIN CAPITAL LETTER I",
    "1f119 PARENTHESIZED LATIN CAPITAL LETTER J;PARENTHESIZED LATIN CAPITAL LETTER K",
    "1f11b PARENTHESIZED LATIN CAPITAL LETTER L;PARENTHESIZED LATIN CAPITAL LETTER M",
    "1f11d PARENTHESIZED LATIN CAPITAL LETTER N;PARENTHESIZED LATIN CAPITAL LETTER O",
    "1f11f PARENTHESIZED LATIN CAPITAL LETTER P;PARENTHESIZED LATIN CAPITAL LETTER Q",
    "1f121 PARENTHESIZED LATIN CAPITAL LETTER R;PARENTHESIZED LATIN CAPITAL LETTER S",
    "1f123 PARENTHESIZED LATIN CAPITAL LETTER T;PARENTHESIZED LATIN CAPITAL LETTER U",
    "1f125 PARENTHESIZED LATIN CAPITAL LETTER V;PARENTHESIZED LATIN CAPITAL LETTER W",
    "1f127 PARENTHESIZED LATIN CAPITAL LETTER X;PARENTHESIZED LATIN CAPITAL LETTER Y",
    "1f129 PARENTHESIZED LATIN CAPITAL LETTER Z;TORTOISE SHELL BRACKETED LATIN CAPITAL LETTER S",
    "1f12b CIRCLED ITALIC LATIN CAPITAL LETTER C;CIRCLED ITALIC LATIN CAPITAL LETTER R",
    "1f12d CIRCLED CD;CIRCLED WZ;COPYLEFT SYMBOL;SQUARED LATIN CAPITAL LETTER A",
    "1f131 SQUARED LATIN CAPITAL LETTER B;SQUARED LATIN CAPITAL LETTER C",
    "1f133 SQUARED LATIN CAPITAL LETTER D;SQUARED LATIN CAPITAL LETTER E",
    "1f135 SQUARED LATIN CAPITAL LETTER F;SQUARED LATIN CAPITAL LETTER G",
    "1f137 SQUARED LATIN CAPITAL LETTER H;SQUARED LATIN CAPITAL LETTER I",
    "1f139 SQUARED LATIN CAPITAL LETTER J;SQUARED LATIN CAPITAL LETTER K",
    "1f13b SQUARED LATIN CAPITAL LETTER L;SQUARED LATIN CAPITAL LETTER M",
    "1f13d SQUARED LATIN CAPITAL LETTER N;SQUARED LATIN CAPITAL LETTER O",
    "1f13f SQUARED LATIN CAPITAL LETTER P;SQUARED LATIN CAPITAL LETTER Q",
    "1f141 SQUARED LATIN CAPITAL LETTER R;SQUARED LATIN CAPITAL LETTER S",
    "1f143 SQUARED LATIN CAPITAL LETTER T;SQUARED LATIN CAPITAL LETTER U",
    "1f145 SQUARED LATIN CAPITAL LETTER V;SQUARED LATIN CAPITAL LETTER W",
    "1f147 SQUARED LATIN CAPITAL LETTER X;SQUARED LATIN CAPITAL LETTER Y",
    "1f149 SQUARED LATIN CAPITAL LETTER Z;SQUARED HV;SQUARED MV;SQUARED SD;SQUARED SS",
    "1f14e SQUARED PPV;SQUARED WC;NEGATIVE CIRCLED LATIN CAPITAL LETTER A",
    "1f151 NEGATIVE CIRCLED LATIN CAPITAL LETTER B;NEGATIVE CIRCLED LATIN CAPITAL LETTER C",
    "1f153 NEGATIVE CIRCLED LATIN CAPITAL LETTER D;NEGATIVE CIRCLED LATIN CAPITAL LETTER E",
    "1f155 NEGATIVE CIRCLED LATIN CAPITAL LETTER F;NEGATIVE CIRCLED LATIN CAPITAL LETTER G",
    "1f157 NEGATIVE CIRCLED LATIN CAPITAL LETTER H;NEGATIVE CIRCLED LATIN CAPITAL LETTER I",
    "1f159 NEGATIVE CIRCLED LATIN CAPITAL LETTER J;NEGATIVE CIRCLED LATIN CAPITAL LETTER K",
    "1f15b NEGATIVE CIRCLED LATIN CAPITAL LETTER L;NEGATIVE CIRCLED LATIN CAPITAL LETTER M",
    "1f15d NEGATIVE CIRCLED LATIN CAPITAL LETTER N;NEGATIVE CIRCLED LATIN CAPITAL LETTER O",
    "1f15f NEGATIVE CIRCLED LATIN CAPITAL LETTER P;NEGATIVE CIRCLED LATIN CAPITAL LETTER Q",
    "1f161 NEGATIVE CIRCLED LATIN CAPITAL LETTER R;NEGATIVE CIRCLED LATIN CAPITAL LETTER S",
    "1f163 NEGATIVE CIRCLED LATIN CAPITAL LETTER T;NEGATIVE CIRCLED LATIN CAPITAL LETTER U",
    "1f165 NEGATIVE CIRCLED LATIN CAPITAL LETTER V;NEGATIVE CIRCLED LATIN CAPITAL LETTER W",
    "1f167 NEGATIVE CIRCLED LATIN CAPITAL LETTER X;NEGATIVE CIRCLED LATIN CAPITAL LETTER Y",
    "1f169 NEGATIVE CIRCLED LATIN CAPITAL LETTER Z;RAISED MC SIGN;RAISED MD SIGN;RAISED MR SIGN",
    "1f16d CIRCLED CC;CIRCLED C WITH OVERLAID BACKSLASH;CIRCLED HUMAN FIGURE",
    "1f170 NEGATIVE SQUARED LATIN CAPITAL LETTER A;NEGATIVE SQUARED LATIN CAPITAL LETTER B",
    "1f172 NEGATIVE SQUARED LATIN CAPITAL LETTER C;NEGATIVE SQUARED LATIN CAPITAL LETTER D",
    "1f174 NEGATIVE SQUARED LATIN CAPITAL LETTER E;NEGATIVE SQUARED LATIN CAPITAL LETTER F",
    "1f176 NEGATIVE SQUARED LATIN CAPITAL LETTER G;NEGATIVE SQUARED LATIN CAPITAL LETTER H",
    "1f178 NEGATIVE SQUARED LATIN CAPITAL LETTER I;NEGATIVE SQUARED LATIN CAPITAL LETTER J",
    "1f17a NEGATIVE SQUARED LATIN CAPITAL LETTER K;NEGATIVE SQUARED LATIN CAPITAL LETTER L",
    "1f17c NEGATIVE SQUARED LATIN CAPITAL LETTER M;NEGATIVE SQUARED LATIN CAPITAL LETTER N",
    "1f17e NEGATIVE SQUARED LATIN CAPITAL LETTER O;NEGATIVE SQUARED LATIN CAPITAL LETTER P",
    "1f180 NEGATIVE SQUARED LATIN CAPITAL LETTER Q;NEGATIVE SQUARED LATIN CAPITAL LETTER R",
    "1f182 NEGATIVE SQUARED LATIN CAPITAL LETTER S;NEGATIVE SQUARED LATIN CAPITAL LETTER T",
    "1f184 NEGATIVE SQUARED LATIN CAPITAL LETTER U;NEGATIVE SQUARED LATIN CAPITAL LETTER V",
    "1f186 NEGATIVE SQUARED LATIN CAPITAL LETTER W;NEGATIVE SQUARED LATIN CAPITAL LETTER X",
    "1f188 NEGATIVE SQUARED LATIN CAPITAL LETTER Y;NEGATIVE SQUARED LATIN CAPITAL LETTER Z",
    "1f18a CROSSED NEGATIVE SQUARED LATIN CAPITAL LETTER P;NEGATIVE SQUARED IC",
    "1f18c NEGATIVE SQUARED PA;NEGATIVE SQUARED SA;NEGATIVE SQUARED AB;NEGATIVE SQUARED WC",
    "1f190 SQUARE DJ;SQUARED CL;SQUARED COOL;SQUARED FREE;SQUARED ID;SQUARED NEW;SQUARED NG",
    "1f197 SQUARED OK;SQUARED SOS;SQUARED UP WITH EXCLAMATION MARK;SQUARED VS;SQUARED THREE D",
    "1f19c SQUARED SECOND SCREEN;SQUARED TWO K;SQUARED FOUR K;SQUARED EIGHT K",
    "1f1a0 SQUARED FIVE POINT ONE;SQUARED SEVEN POINT ONE;SQUARED TWENTY-TWO POINT TWO",
    "1f1a3 SQUARED SIXTY P;SQUARED ONE HUNDRED TWENTY P;SQUARED LATIN SMALL LETTER D;SQUARED HC",
    "1f1a7 SQUARED HDR;SQUARED HI-RES;SQUARED LOSSLESS;SQUARED SHV;SQUARED UHD;SQUARED VOD",
    "1f1ad MASK WORK SYMBOL",
    "1f1e6 REGIONAL INDICATOR SYMBOL LETTER A;REGIONAL INDICATOR SYMBOL LETTER B",
    "1f1e8 REGIONAL INDICATOR SYMBOL LETTER C;REGIONAL INDICATOR SYMBOL LETTER D",
    "1f1ea REGIONAL INDICATOR SYMBOL LETTER E;REGIONAL INDICATOR SYMBOL LETTER F",
    "1f1ec REGIONAL INDICATOR SYMBOL LETTER G;REGIONAL INDICATOR SYMBOL LETTER H",
    "1f1ee REGIONAL INDICATOR SYMBOL LETTER I;REGIONAL INDICATOR SYMBOL LETTER J",
    "1f1f0 REGIONAL INDICATOR SYMBOL LETTER K;REGIONAL INDICATOR SYMBOL LETTER L",
    "1f1f2 REGIONAL INDICATOR SYMBOL LETTER M;REGIONAL INDICATOR SYMBOL LETTER N",
    "1f1f4 REGIONAL INDICATOR SYMBOL LETTER O;REGIONAL INDICATOR SYMBOL LETTER P",
    "1f1f6 REGIONAL INDICATOR SYMBOL LETTER Q;REGIONAL INDICATOR SYMBOL LETTER R",
    "1f1f8 REGIONAL INDICATOR SYMBOL LETTER S;REGIONAL INDICATOR SYMBOL LETTER T",
    "1f1fa REGIONAL INDICATOR SYMBOL LETTER U;REGIONAL INDICATOR SYMBOL LETTER V",
    "1f1fc REGIONAL INDICATOR SYMBOL LETTER W;REGIONAL INDICATOR SYMBOL LETTER X",
    "1f1fe REGIONAL INDICATOR SYMBOL LETTER Y;REGIONAL INDICATOR SYMBOL LETTER Z",
    "1f200 SQUARE HIRAGANA HOKA;SQUARED KATAKANA KOKO;SQUARED KATAKANA SA",
    "1f210 SQUARED CJK UNIFIED IDEOGRAPH-624B;SQUARED CJK UNIFIED IDEOGRAPH-5B57",
    "1f212 SQUARED CJK UNIFIED IDEOGRAPH-53CC;SQUARED KATAKANA DE",
    "1f214 SQUARED CJK UNIFIED IDEOGRAPH-4E8C;SQUARED CJK UNIFIED IDEOGRAPH-591A",
    "1f216 SQUARED CJK UNIFIED IDEOGRAPH-89E3;SQUARED CJK UNIFIED IDEOGRAPH-5929",
    "1f218 SQUARED CJK UNIFIED IDEOGRAPH-4EA4;SQUARED CJK UNIFIED IDEOGRAPH-6620",
    "1f21a SQUARED CJK UNIFIED IDEOGRAPH-7121;SQUARED CJK UNIFIED IDEOGRAPH-6599",
    "1f21c SQUARED CJK UNIFIED IDEOGRAPH-524D;SQUARED CJK UNIFIED IDEOGRAPH-5F8C",
    "1f21e SQUARED CJK UNIFIED IDEOGRAPH-518D;SQUARED CJK UNIFIED IDEOGRAPH-65B0",
    "1f220 SQUARED CJK UNIFIED IDEOGRAPH-521D;SQUARED CJK UNIFIED IDEOGRAPH-7D42",
    "1f222 SQUARED CJK UNIFIED IDEOGRAPH-751F;SQUARED CJK UNIFIED IDEOGRAPH-8CA9",
    "1f224 SQUARED CJK UNIFIED IDEOGRAPH-58F0;SQUARED CJK UNIFIED IDEOGRAPH-5439",
    "1f226 SQUARED CJK UNIFIED IDEOGRAPH-6F14;SQUARED CJK UNIFIED IDEOGRAPH-6295",
    "1f228 SQUARED CJK UNIFIED IDEOGRAPH-6355;SQUARED CJK UNIFIED IDEOGRAPH-4E00",
    "1f22a SQUARED CJK UNIFIED IDEOGRAPH-4E09;SQUARED CJK UNIFIED IDEOGRAPH-904A",
    "1f22c SQUARED CJK UNIFIED IDEOGRAPH-5DE6;SQUARED CJK UNIFIED IDEOGRAPH-4E2D",
    "1f22e SQUARED CJK UNIFIED IDEOGRAPH-53F3;SQUARED CJK UNIFIED IDEOGRAPH-6307",
    "1f230 SQUARED CJK UNIFIED IDEOGRAPH-8D70;SQUARED CJK UNIFIED IDEOGRAPH-6253",
    "1f232 SQUARED CJK UNIFIED IDEOGRAPH-7981;SQUARED CJK UNIFIED IDEOGRAPH-7A7A",
    "1f234 SQUARED CJK UNIFIED IDEOGRAPH-5408;SQUARED CJK UNIFIED IDEOGRAPH-6E80",
    "1f236 SQUARED CJK UNIFIED IDEOGRAPH-6709;SQUARED CJK UNIFIED IDEOGRAPH-6708",
    "1f238 SQUARED CJK UNIFIED IDEOGRAPH-7533;SQUARED CJK UNIFIED IDEOGRAPH-5272",
    "1f23a SQUARED CJK UNIFIED IDEOGRAPH-55B6;SQUARED CJK UNIFIED IDEOGRAPH-914D",
    "1f240 TORTOISE SHELL BRACKETED CJK UNIFIED IDEOGRAPH-672C",
    "1f241 TORTOISE SHELL BRACKETED CJK UNIFIED IDEOGRAPH-4E09",
    "1f242 TORTOISE SHELL BRACKETED CJK UNIFIED IDEOGRAPH-4E8C",
    "1f243 TORTOISE SHELL BRACKETED CJK UNIFIED IDEOGRAPH-5B89",
    "1f244 TORTOISE SHELL BRACKETED CJK UNIFIED IDEOGRAPH-70B9",
    "1f245 TORTOISE SHELL BRACKETED CJK UNIFIED IDEOGRAPH-6253",
    "1f246 TORTOISE SHELL BRACKETED CJK UNIFIED IDEOGRAPH-76D7",
    "1f247 TORTOISE SHELL BRACKETED CJK UNIFIED IDEOGRAPH-52DD",
    "1f248 TORTOISE SHELL BRACKETED CJK UNIFIED IDEOGRAPH-6557",
    "1f250 CIRCLED IDEOGRAPH ADVANTAGE;CIRCLED IDEOGRAPH ACCEPT",
    "1f260 ROUNDED SYMBOL FOR FU;ROUNDED SYMBOL FOR LU;ROUNDED SYMBOL FOR SHOU",
    "1f263 ROUNDED SYMBOL FOR XI;ROUNDED SYMBOL FOR SHUANGXI;ROUNDED SYMBOL FOR CAI",
    "1f300 CYCLONE;FOGGY;CLOSED UMBRELLA;NIGHT WITH STARS;SUNRISE OVER MOUNTAINS;SUNRISE",
    "1f306 CITYSCAPE AT DUSK;SUNSET OVER BUILDINGS;RAINBOW;BRIDGE AT NIGHT;WATER WAVE;VOLCANO",
    "1f30c MILKY WAY;EARTH GLOBE EUROPE-AFRICA;EARTH GLOBE AMERICAS;EARTH GLOBE ASIA-AUSTRALIA",
    "1f310 GLOBE WITH MERIDIANS;NEW MOON SYMBOL;WAXING CRESCENT MOON SYMBOL",
    "1f313 FIRST QUARTER MOON SYMBOL;WAXING GIBBOUS MOON SYMBOL;FULL MOON SYMBOL",
    "1f316 WANING GIBBOUS MOON SYMBOL;LAST QUARTER MOON SYMBOL;WANING CRESCENT MOON SYMBOL",
    "1f319 CRESCENT MOON;NEW MOON WITH FACE;FIRST QUARTER MOON WITH FACE",
    "1f31c LAST QUARTER MOON WITH FACE;FULL MOON WITH FACE;SUN WITH FACE;GLOWING STAR",
    "1f320 SHOOTING STAR;THERMOMETER;BLACK DROPLET;WHITE SUN;WHITE SUN WITH SMALL CLOUD",
    "1f325 WHITE SUN BEHIND CLOUD;WHITE SUN BEHIND CLOUD WITH RAIN;CLOUD WITH RAIN",
    "1f328 CLOUD WITH SNOW;CLOUD WITH LIGHTNING;CLOUD WITH TORNADO;FOG;WIND BLOWING FACE",
    "1f32d HOT DOG;TACO;BURRITO;CHESTNUT;SEEDLING;EVERGREEN TREE;DECIDUOUS TREE;PALM TREE",
    "1f335 CACTUS;HOT PEPPER;TULIP;CHERRY BLOSSOM;ROSE;HIBISCUS;SUNFLOWER;BLOSSOM;EAR OF MAIZE",
    "1f33e EAR OF RICE;HERB;FOUR LEAF CLOVER;MAPLE LEAF;FALLEN LEAF;LEAF FLUTTERING IN WIND",
    "1f344 MUSHROOM;TOMATO;AUBERGINE;GRAPES;MELON;WATERMELON;TANGERINE;LEMON;BANANA;PINEAPPLE",
    "1f34e RED APPLE;GREEN APPLE;PEAR;PEACH;CHERRIES;STRAWBERRY;HAMBURGER;SLICE OF PIZZA",
    "1f356 MEAT ON BONE;POULTRY LEG;RICE CRACKER;RICE BALL;COOKED RICE;CURRY AND RICE",
    "1f35c STEAMING BOWL;SPAGHETTI;BREAD;FRENCH FRIES;ROASTED SWEET POTATO;DANGO;ODEN;SUSHI",
    "1f364 FRIED SHRIMP;FISH CAKE WITH SWIRL DESIGN;SOFT ICE CREAM;SHAVED ICE;ICE CREAM",
    "1f369 DOUGHNUT;COOKIE;CHOCOLATE BAR;CANDY;LOLLIPOP;CUSTARD;HONEY POT;SHORTCAKE;BENTO BOX",
    "1f372 POT OF FOOD;COOKING;FORK AND KNIFE;TEACUP WITHOUT HANDLE;SAKE BOTTLE AND CUP",
    "1f377 WINE GLASS;COCKTAIL GLASS;TROPICAL DRINK;BEER MUG;CLINKING BEER MUGS;BABY BOTTLE",
    "1f37d FORK AND KNIFE WITH PLATE;BOTTLE WITH POPPING CORK;POPCORN;RIBBON;WRAPPED PRESENT",
    "1f382 BIRTHDAY CAKE;JACK-O-LANTERN;CHRISTMAS TREE;FATHER CHRISTMAS;FIREWORKS",
    "1f387 FIREWORK SPARKLER;BALLOON;PARTY POPPER;CONFETTI BALL;TANABATA TREE;CROSSED FLAGS",
    "1f38d PINE DECORATION;JAPANESE DOLLS;CARP STREAMER;WIND CHIME;MOON VIEWING CEREMONY",
    "1f392 SCHOOL SATCHEL;GRADUATION CAP;HEART WITH TIP ON THE LEFT;BOUQUET OF FLOWERS",
    "1f396 MILITARY MEDAL;REMINDER RIBBON;MUSICAL KEYBOARD WITH JACKS;STUDIO MICROPHONE",
    "1f39a LEVEL SLIDER;CONTROL KNOBS;BEAMED ASCENDING MUSICAL NOTES",
    "1f39d BEAMED DESCENDING MUSICAL NOTES;FILM FRAMES;ADMISSION TICKETS;CAROUSEL HORSE",
    "1f3a1 FERRIS WHEEL;ROLLER COASTER;FISHING POLE AND FISH;MICROPHONE;MOVIE CAMERA;CINEMA",
    "1f3a7 HEADPHONE;ARTIST PALETTE;TOP HAT;CIRCUS TENT;TICKET;CLAPPER BOARD;PERFORMING ARTS",
    "1f3ae VIDEO GAME;DIRECT HIT;SLOT MACHINE;BILLIARDS;GAME DIE;BOWLING;FLOWER PLAYING CARDS",
    "1f3b5 MUSICAL NOTE;MULTIPLE MUSICAL NOTES;SAXOPHONE;GUITAR;MUSICAL KEYBOARD;TRUMPET;VIOLIN",
    "1f3bc MUSICAL SCORE;RUNNING SHIRT WITH SASH;TENNIS RACQUET AND BALL;SKI AND SKI BOOT",
    "1f3c0 BASKETBALL AND HOOP;CHEQUERED FLAG;SNOWBOARDER;RUNNER;SURFER;SPORTS MEDAL;TROPHY",
    "1f3c7 HORSE RACING;AMERICAN FOOTBALL;RUGBY FOOTBALL;SWIMMER;WEIGHT LIFTER;GOLFER",
    "1f3cd RACING MOTORCYCLE;RACING CAR;CRICKET BAT AND BALL;VOLLEYBALL"]

/-- The names from U+1F3D1 to U+1F768. -/
def pictureNamesB : List String :=
  ["1f3d1 FIELD HOCKEY STICK AND BALL;ICE HOCKEY STICK AND PUCK;TABLE TENNIS PADDLE AND BALL",
    "1f3d4 SNOW CAPPED MOUNTAIN;CAMPING;BEACH WITH UMBRELLA;BUILDING CONSTRUCTION",
    "1f3d8 HOUSE BUILDINGS;CITYSCAPE;DERELICT HOUSE BUILDING;CLASSICAL BUILDING;DESERT",
    "1f3dd DESERT ISLAND;NATIONAL PARK;STADIUM;HOUSE BUILDING;HOUSE WITH GARDEN;OFFICE BUILDING",
    "1f3e3 JAPANESE POST OFFICE;EUROPEAN POST OFFICE;HOSPITAL;BANK;AUTOMATED TELLER MACHINE",
    "1f3e8 HOTEL;LOVE HOTEL;CONVENIENCE STORE;SCHOOL;DEPARTMENT STORE;FACTORY;IZAKAYA LANTERN",
    "1f3ef JAPANESE CASTLE;EUROPEAN CASTLE;WHITE PENNANT;BLACK PENNANT;WAVING WHITE FLAG",
    "1f3f4 WAVING BLACK FLAG;ROSETTE;BLACK ROSETTE;LABEL;BADMINTON RACQUET AND SHUTTLECOCK",
    "1f3f9 BOW AND ARROW;AMPHORA;EMOJI MODIFIER FITZPATRICK TYPE-1-2",
    "1f3fc EMOJI MODIFIER FITZPATRICK TYPE-3;EMOJI MODIFIER FITZPATRICK TYPE-4",
    "1f3fe EMOJI MODIFIER FITZPATRICK TYPE-5;EMOJI MODIFIER FITZPATRICK TYPE-6;RAT;MOUSE;OX",
    "1f403 WATER BUFFALO;COW;TIGER;LEOPARD;RABBIT;CAT;DRAGON;CROCODILE;WHALE;SNAIL;SNAKE;HORSE",
    "1f40f RAM;GOAT;SHEEP;MONKEY;ROOSTER;CHICKEN;DOG;PIG;BOAR;ELEPHANT;OCTOPUS;SPIRAL SHELL;BUG",
    "1f41c ANT;HONEYBEE;LADY BEETLE;FISH;TROPICAL FISH;BLOWFISH;TURTLE;HATCHING CHICK",
    "1f424 BABY CHICK;FRONT-FACING BABY CHICK;BIRD;PENGUIN;KOALA;POODLE;DROMEDARY CAMEL",
    "1f42b BACTRIAN CAMEL;DOLPHIN;MOUSE FACE;COW FACE;TIGER FACE;RABBIT FACE;CAT FACE",
    "1f432 DRAGON FACE;SPOUTING WHALE;HORSE FACE;MONKEY FACE;DOG FACE;PIG FACE;FROG FACE",
    "1f439 HAMSTER FACE;WOLF FACE;BEAR FACE;PANDA FACE;PIG NOSE;PAW PRINTS;CHIPMUNK;EYES;EYE",
    "1f442 EAR;NOSE;MOUTH;TONGUE;WHITE UP POINTING BACKHAND INDEX",
    "1f447 WHITE DOWN POINTING BACKHAND INDEX;WHITE LEFT POINTING BACKHAND INDEX",
    "1f449 WHITE RIGHT POINTING BACKHAND INDEX;FISTED HAND SIGN;WAVING HAND SIGN;OK HAND SIGN",
    "1f44d THUMBS UP SIGN;THUMBS DOWN SIGN;CLAPPING HANDS SIGN;OPEN HANDS SIGN;CROWN;WOMANS HAT",
    "1f453 EYEGLASSES;NECKTIE;T-SHIRT;JEANS;DRESS;KIMONO;BIKINI;WOMANS CLOTHES;PURSE;HANDBAG",
    "1f45d POUCH;MANS SHOE;ATHLETIC SHOE;HIGH-HEELED SHOE;WOMANS SANDAL;WOMANS BOOTS;FOOTPRINTS",
    "1f464 BUST IN SILHOUETTE;BUSTS IN SILHOUETTE;BOY;GIRL;MAN;WOMAN;FAMILY",
    "1f46b MAN AND WOMAN HOLDING HANDS;TWO MEN HOLDING HANDS;TWO WOMEN HOLDING HANDS",
    "1f46e POLICE OFFICER;WOMAN WITH BUNNY EARS;BRIDE WITH VEIL;PERSON WITH BLOND HAIR",
    "1f472 MAN WITH GUA PI MAO;MAN WITH TURBAN;OLDER MAN;OLDER WOMAN;BABY;CONSTRUCTION WORKER",
    "1f478 PRINCESS;JAPANESE OGRE;JAPANESE GOBLIN;GHOST;BABY ANGEL;EXTRATERRESTRIAL ALIEN",
    "1f47e ALIEN MONSTER;IMP;SKULL;INFORMATION DESK PERSON;GUARDSMAN;DANCER;LIPSTICK",
    "1f485 NAIL POLISH;FACE MASSAGE;HAIRCUT;BARBER POLE;SYRINGE;PILL;KISS MARK;LOVE LETTER;RING",
    "1f48e GEM STONE;KISS;BOUQUET;COUPLE WITH HEART;WEDDING;BEATING HEART;BROKEN HEART",
    "1f495 TWO HEARTS;SPARKLING HEART;GROWING HEART;HEART WITH ARROW;BLUE HEART;GREEN HEART",
    "1f49b YELLOW HEART;PURPLE HEART;HEART WITH RIBBON;REVOLVING HEARTS;HEART DECORATION",
    "1f4a0 DIAMOND SHAPE WITH A DOT INSIDE;ELECTRIC LIGHT BULB;ANGER SYMBOL;BOMB",
    "1f4a4 SLEEPING SYMBOL;COLLISION SYMBOL;SPLASHING SWEAT SYMBOL;DROPLET;DASH SYMBOL",
    "1f4a9 PILE OF POO;FLEXED BICEPS;DIZZY SYMBOL;SPEECH BALLOON;THOUGHT BALLOON;WHITE FLOWER",
    "1f4af HUNDRED POINTS SYMBOL;MONEY BAG;CURRENCY EXCHANGE;HEAVY DOLLAR SIGN;CREDIT CARD",
    "1f4b4 BANKNOTE WITH YEN SIGN;BANKNOTE WITH DOLLAR SIGN;BANKNOTE WITH EURO SIGN",
    "1f4b7 BANKNOTE WITH POUND SIGN;MONEY WITH WINGS;CHART WITH UPWARDS TREND AND YEN SIGN;SEAT",
    "1f4bb PERSONAL COMPUTER;BRIEFCASE;MINIDISC;FLOPPY DISK;OPTICAL DISC;DVD;FILE FOLDER",
    "1f4c2 OPEN FILE FOLDER;PAGE WITH CURL;PAGE FACING UP;CALENDAR;TEAR-OFF CALENDAR;CARD INDEX",
    "1f4c8 CHART WITH UPWARDS TREND;CHART WITH DOWNWARDS TREND;BAR CHART;CLIPBOARD;PUSHPIN",
    "1f4cd ROUND PUSHPIN;PAPERCLIP;STRAIGHT RULER;TRIANGULAR RULER;BOOKMARK TABS;LEDGER",
    "1f4d3 NOTEBOOK;NOTEBOOK WITH DECORATIVE COVER;CLOSED BOOK;OPEN BOOK;GREEN BOOK;BLUE BOOK",
    "1f4d9 ORANGE BOOK;BOOKS;NAME BADGE;SCROLL;MEMO;TELEPHONE RECEIVER;PAGER;FAX MACHINE",
    "1f4e1 SATELLITE ANTENNA;PUBLIC ADDRESS LOUDSPEAKER;CHEERING MEGAPHONE;OUTBOX TRAY",
    "1f4e5 INBOX TRAY;PACKAGE;E-MAIL SYMBOL;INCOMING ENVELOPE",
    "1f4e9 ENVELOPE WITH DOWNWARDS ARROW ABOVE;CLOSED MAILBOX WITH LOWERED FLAG",
    "1f4eb CLOSED MAILBOX WITH RAISED FLAG;OPEN MAILBOX WITH RAISED FLAG",
    "1f4ed OPEN MAILBOX WITH LOWERED FLAG;POSTBOX;POSTAL HORN;NEWSPAPER;MOBILE PHONE",
    "1f4f2 MOBILE PHONE WITH RIGHTWARDS ARROW AT LEFT;VIBRATION MODE;MOBILE PHONE OFF",
    "1f4f5 NO MOBILE PHONES;ANTENNA WITH BARS;CAMERA;CAMERA WITH FLASH;VIDEO CAMERA;TELEVISION",
    "1f4fb RADIO;VIDEOCASSETTE;FILM PROJECTOR;PORTABLE STEREO;PRAYER BEADS",
    "1f500 TWISTED RIGHTWARDS ARROWS;CLOCKWISE RIGHTWARDS AND LEFTWARDS OPEN CIRCLE ARROWS",
    "1f502 CLOCKWISE RIGHTWARDS AND LEFTWARDS OPEN CIRCLE ARROWS WITH CIRCLED ONE OVERLAY",
    "1f503 CLOCKWISE DOWNWARDS AND UPWARDS OPEN CIRCLE ARROWS",
    "1f504 ANTICLOCKWISE DOWNWARDS AND UPWARDS OPEN CIRCLE ARROWS;LOW BRIGHTNESS SYMBOL",
    "1f506 HIGH BRIGHTNESS SYMBOL;SPEAKER WITH CANCELLATION STROKE;SPEAKER",
    "1f509 SPEAKER WITH ONE SOUND WAVE;SPEAKER WITH THREE SOUND WAVES;BATTERY;ELECTRIC PLUG",
    "1f50d LEFT-POINTING MAGNIFYING GLASS;RIGHT-POINTING MAGNIFYING GLASS;LOCK WITH INK PEN",
    "1f510 CLOSED LOCK WITH KEY;KEY;LOCK;OPEN LOCK;BELL;BELL WITH CANCELLATION STROKE;BOOKMARK",
    "1f517 LINK SYMBOL;RADIO BUTTON;BACK WITH LEFTWARDS ARROW ABOVE",
    "1f51a END WITH LEFTWARDS ARROW ABOVE;ON WITH EXCLAMATION MARK WITH LEFT RIGHT ARROW ABOVE",
    "1f51c SOON WITH RIGHTWARDS ARROW ABOVE;TOP WITH UPWARDS ARROW ABOVE",
    "1f51e NO ONE UNDER EIGHTEEN SYMBOL;KEYCAP TEN;INPUT SYMBOL FOR LATIN CAPITAL LETTERS",
    "1f521 INPUT SYMBOL FOR LATIN SMALL LETTERS;INPUT SYMBOL FOR NUMBERS",
    "1f523 INPUT SYMBOL FOR SYMBOLS;INPUT SYMBOL FOR LATIN LETTERS;FIRE;ELECTRIC TORCH;WRENCH",
    "1f528 HAMMER;NUT AND BOLT;HOCHO;PISTOL;MICROSCOPE;TELESCOPE;CRYSTAL BALL",
    "1f52f SIX POINTED STAR WITH MIDDLE DOT;JAPANESE SYMBOL FOR BEGINNER;TRIDENT EMBLEM",
    "1f532 BLACK SQUARE BUTTON;WHITE SQUARE BUTTON;LARGE RED CIRCLE;LARGE BLUE CIRCLE",
    "1f536 LARGE ORANGE DIAMOND;LARGE BLUE DIAMOND;SMALL ORANGE DIAMOND;SMALL BLUE DIAMOND",
    "1f53a UP-POINTING RED TRIANGLE;DOWN-POINTING RED TRIANGLE;UP-POINTING SMALL RED TRIANGLE",
    "1f53d DOWN-POINTING SMALL RED TRIANGLE;LOWER RIGHT SHADOWED WHITE CIRCLE",
    "1f53f UPPER RIGHT SHADOWED WHITE CIRCLE;CIRCLED CROSS POMMEE",
    "1f541 CROSS POMMEE WITH HALF-CIRCLE BELOW;CROSS POMMEE",
    "1f543 NOTCHED LEFT SEMICIRCLE WITH THREE DOTS;NOTCHED RIGHT SEMICIRCLE WITH THREE DOTS",
    "1f545 SYMBOL FOR MARKS CHAPTER;WHITE LATIN CROSS;HEAVY LATIN CROSS;CELTIC CROSS;OM SYMBOL",
    "1f54a DOVE OF PEACE;KAABA;MOSQUE;SYNAGOGUE;MENORAH WITH NINE BRANCHES;BOWL OF HYGIEIA",
    "1f550 CLOCK FACE ONE OCLOCK;CLOCK FACE TWO OCLOCK;CLOCK FACE THREE OCLOCK",
    "1f553 CLOCK FACE FOUR OCLOCK;CLOCK FACE FIVE OCLOCK;CLOCK FACE SIX OCLOCK",
    "1f556 CLOCK FACE SEVEN OCLOCK;CLOCK FACE EIGHT OCLOCK;CLOCK FACE NINE OCLOCK",
    "1f559 CLOCK FACE TEN OCLOCK;CLOCK FACE ELEVEN OCLOCK;CLOCK FACE TWELVE OCLOCK",
    "1f55c CLOCK FACE ONE-THIRTY;CLOCK FACE TWO-THIRTY;CLOCK FACE THREE-THIRTY",
    "1f55f CLOCK FACE FOUR-THIRTY;CLOCK FACE FIVE-THIRTY;CLOCK FACE SIX-THIRTY",
    "1f562 CLOCK FACE SEVEN-THIRTY;CLOCK FACE EIGHT-THIRTY;CLOCK FACE NINE-THIRTY",
    "1f565 CLOCK FACE TEN-THIRTY;CLOCK FACE ELEVEN-THIRTY;CLOCK FACE TWELVE-THIRTY",
    "1f568 RIGHT SPEAKER;RIGHT SPEAKER WITH ONE SOUND WAVE;RIGHT SPEAKER WITH THREE SOUND WAVES",
    "1f56b BULLHORN;BULLHORN WITH SOUND WAVES;RINGING BELL;BOOK;CANDLE;MANTELPIECE CLOCK",
    "1f571 BLACK SKULL AND CROSSBONES;NO PIRACY;HOLE;MAN IN BUSINESS SUIT LEVITATING",
    "1f575 SLEUTH OR SPY;DARK SUNGLASSES;SPIDER;SPIDER WEB;JOYSTICK;MAN DANCING",
    "1f57b LEFT HAND TELEPHONE RECEIVER;TELEPHONE RECEIVER WITH PAGE",
    "1f57d RIGHT HAND TELEPHONE RECEIVER;WHITE TOUCHTONE TELEPHONE;BLACK TOUCHTONE TELEPHONE",
    "1f580 TELEPHONE ON TOP OF MODEM;CLAMSHELL MOBILE PHONE;BACK OF ENVELOPE;STAMPED ENVELOPE",
    "1f584 ENVELOPE WITH LIGHTNING;FLYING ENVELOPE;PEN OVER STAMPED ENVELOPE;LINKED PAPERCLIPS",
    "1f588 BLACK PUSHPIN;LOWER LEFT PENCIL;LOWER LEFT BALLPOINT PEN;LOWER LEFT FOUNTAIN PEN",
    "1f58c LOWER LEFT PAINTBRUSH;LOWER LEFT CRAYON;LEFT WRITING HAND;TURNED OK HAND SIGN",
    "1f590 RAISED HAND WITH FINGERS SPLAYED;REVERSED RAISED HAND WITH FINGERS SPLAYED",
    "1f592 REVERSED THUMBS UP SIGN;REVERSED THUMBS DOWN SIGN;REVERSED VICTORY HAND",
    "1f595 REVERSED HAND WITH MIDDLE FINGER EXTENDED",
    "1f596 RAISED HAND WITH PART BETWEEN MIDDLE AND RING FINGERS",
    "1f597 WHITE DOWN POINTING LEFT HAND INDEX;SIDEWAYS WHITE LEFT POINTING INDEX",
    "1f599 SIDEWAYS WHITE RIGHT POINTING INDEX;SIDEWAYS BLACK LEFT POINTING INDEX",
    "1f59b SIDEWAYS BLACK RIGHT POINTING INDEX;BLACK LEFT POINTING BACKHAND INDEX",
    "1f59d BLACK RIGHT POINTING BACKHAND INDEX;SIDEWAYS WHITE UP POINTING INDEX",
    "1f59f SIDEWAYS WHITE DOWN POINTING INDEX;SIDEWAYS BLACK UP POINTING INDEX",
    "1f5a1 SIDEWAYS BLACK DOWN POINTING INDEX;BLACK UP POINTING BACKHAND INDEX",
    "1f5a3 BLACK DOWN POINTING BACKHAND INDEX;BLACK HEART;DESKTOP COMPUTER;KEYBOARD AND MOUSE",
    "1f5a7 THREE NETWORKED COMPUTERS;PRINTER;POCKET CALCULATOR;BLACK HARD SHELL FLOPPY DISK",
    "1f5ab WHITE HARD SHELL FLOPPY DISK;SOFT SHELL FLOPPY DISK;TAPE CARTRIDGE;WIRED KEYBOARD",
    "1f5af ONE BUTTON MOUSE;TWO BUTTON MOUSE;THREE BUTTON MOUSE;TRACKBALL;OLD PERSONAL COMPUTER",
    "1f5b4 HARD DISK;SCREEN;PRINTER ICON;FAX ICON;OPTICAL DISC ICON;DOCUMENT WITH TEXT",
    "1f5ba DOCUMENT WITH TEXT AND PICTURE;DOCUMENT WITH PICTURE;FRAME WITH PICTURE",
    "1f5bd FRAME WITH TILES;FRAME WITH AN X;BLACK FOLDER;FOLDER;OPEN FOLDER;CARD INDEX DIVIDERS",
    "1f5c3 CARD FILE BOX;FILE CABINET;EMPTY NOTE;EMPTY NOTE PAGE;EMPTY NOTE PAD;NOTE;NOTE PAGE",
    "1f5ca NOTE PAD;EMPTY DOCUMENT;EMPTY PAGE;EMPTY PAGES;DOCUMENT;PAGE;PAGES;WASTEBASKET",
    "1f5d2 SPIRAL NOTE PAD;SPIRAL CALENDAR PAD;DESKTOP WINDOW;MINIMIZE;MAXIMIZE;OVERLAP",
    "1f5d8 CLOCKWISE RIGHT AND LEFT SEMICIRCLE ARROWS;CANCELLATION X;INCREASE FONT SIZE SYMBOL",
    "1f5db DECREASE FONT SIZE SYMBOL;COMPRESSION;OLD KEY;ROLLED-UP NEWSPAPER",
    "1f5df PAGE WITH CIRCLED TEXT;STOCK CHART;DAGGER KNIFE;LIPS;SPEAKING HEAD IN SILHOUETTE",
    "1f5e4 THREE RAYS ABOVE;THREE RAYS BELOW;THREE RAYS LEFT;THREE RAYS RIGHT",
    "1f5e8 LEFT SPEECH BUBBLE;RIGHT SPEECH BUBBLE;TWO SPEECH BUBBLES;THREE SPEECH BUBBLES",
    "1f5ec LEFT THOUGHT BUBBLE;RIGHT THOUGHT BUBBLE;LEFT ANGER BUBBLE;RIGHT ANGER BUBBLE",
    "1f5f0 MOOD BUBBLE;LIGHTNING MOOD BUBBLE;LIGHTNING MOOD;BALLOT BOX WITH BALLOT",
    "1f5f4 BALLOT SCRIPT X;BALLOT BOX WITH SCRIPT X;BALLOT BOLD SCRIPT X",
    "1f5f7 BALLOT BOX WITH BOLD SCRIPT X;LIGHT CHECK MARK;BALLOT BOX WITH BOLD CHECK;WORLD MAP",
    "1f5fb MOUNT FUJI;TOKYO TOWER;STATUE OF LIBERTY;SILHOUETTE OF JAPAN;MOYAI;GRINNING FACE",
    "1f601 GRINNING FACE WITH SMILING EYES;FACE WITH TEARS OF JOY;SMILING FACE WITH OPEN MOUTH",
    "1f604 SMILING FACE WITH OPEN MOUTH AND SMILING EYES",
    "1f605 SMILING FACE WITH OPEN MOUTH AND COLD SWEAT",
    "1f606 SMILING FACE WITH OPEN MOUTH AND TIGHTLY-CLOSED EYES;SMILING FACE WITH HALO",
    "1f608 SMILING FACE WITH HORNS;WINKING FACE;SMILING FACE WITH SMILING EYES",
    "1f60b FACE SAVOURING DELICIOUS FOOD;RELIEVED FACE;SMILING FACE WITH HEART-SHAPED EYES",
    "1f60e SMILING FACE WITH SUNGLASSES;SMIRKING FACE;NEUTRAL FACE;EXPRESSIONLESS FACE",
    "1f612 UNAMUSED FACE;FACE WITH COLD SWEAT;PENSIVE FACE;CONFUSED FACE;CONFOUNDED FACE",
    "1f617 KISSING FACE;FACE THROWING A KISS;KISSING FACE WITH SMILING EYES",
    "1f61a KISSING FACE WITH CLOSED EYES;FACE WITH STUCK-OUT TONGUE",
    "1f61c FACE WITH STUCK-OUT TONGUE AND WINKING EYE",
    "1f61d FACE WITH STUCK-OUT TONGUE AND TIGHTLY-CLOSED EYES;DISAPPOINTED FACE;WORRIED FACE",
    "1f620 ANGRY FACE;POUTING FACE;CRYING FACE;PERSEVERING FACE;FACE WITH LOOK OF TRIUMPH",
    "1f625 DISAPPOINTED BUT RELIEVED FACE;FROWNING FACE WITH OPEN MOUTH;ANGUISHED FACE",
    "1f628 FEARFUL FACE;WEARY FACE;SLEEPY FACE;TIRED FACE;GRIMACING FACE;LOUDLY CRYING FACE",
    "1f62e FACE WITH OPEN MOUTH;HUSHED FACE;FACE WITH OPEN MOUTH AND COLD SWEAT",
    "1f631 FACE SCREAMING IN FEAR;ASTONISHED FACE;FLUSHED FACE;SLEEPING FACE;DIZZY FACE",
    "1f636 FACE WITHOUT MOUTH;FACE WITH MEDICAL MASK;GRINNING CAT FACE WITH SMILING EYES",
    "1f639 CAT FACE WITH TEARS OF JOY;SMILING CAT FACE WITH OPEN MOUTH",
    "1f63b SMILING CAT FACE WITH HEART-SHAPED EYES;CAT FACE WITH WRY SMILE",
    "1f63d KISSING CAT FACE WITH CLOSED EYES;POUTING CAT FACE;CRYING CAT FACE;WEARY CAT FACE",
    "1f641 SLIGHTLY FROWNING FACE;SLIGHTLY SMILING FACE;UPSIDE-DOWN FACE;FACE WITH ROLLING EYES",
    "1f645 FACE WITH NO GOOD GESTURE;FACE WITH OK GESTURE;PERSON BOWING DEEPLY",
    "1f648 SEE-NO-EVIL MONKEY;HEAR-NO-EVIL MONKEY;SPEAK-NO-EVIL MONKEY",
    "1f64b HAPPY PERSON RAISING ONE HAND;PERSON RAISING BOTH HANDS IN CELEBRATION",
    "1f64d PERSON FROWNING;PERSON WITH POUTING FACE;PERSON WITH FOLDED HANDS",
    "1f650 NORTH WEST POINTING LEAF;SOUTH WEST POINTING LEAF;NORTH EAST POINTING LEAF",
    "1f653 SOUTH EAST POINTING LEAF;TURNED NORTH WEST POINTING LEAF",
    "1f655 TURNED SOUTH WEST POINTING LEAF;TURNED NORTH EAST POINTING LEAF",
    "1f657 TURNED SOUTH EAST POINTING LEAF;NORTH WEST POINTING VINE LEAF",
    "1f659 SOUTH WEST POINTING VINE LEAF;NORTH EAST POINTING VINE LEAF",
    "1f65b SOUTH EAST POINTING VINE LEAF;HEAVY NORTH WEST POINTING VINE LEAF",
    "1f65d HEAVY SOUTH WEST POINTING VINE LEAF;HEAVY NORTH EAST POINTING VINE LEAF",
    "1f65f HEAVY SOUTH EAST POINTING VINE LEAF;NORTH WEST POINTING BUD;SOUTH WEST POINTING BUD",
    "1f662 NORTH EAST POINTING BUD;SOUTH EAST POINTING BUD;HEAVY NORTH WEST POINTING BUD",
    "1f665 HEAVY SOUTH WEST POINTING BUD;HEAVY NORTH EAST POINTING BUD",
    "1f667 HEAVY SOUTH EAST POINTING BUD;HOLLOW QUILT SQUARE ORNAMENT",
    "1f669 HOLLOW QUILT SQUARE ORNAMENT IN BLACK SQUARE;SOLID QUILT SQUARE ORNAMENT",
    "1f66b SOLID QUILT SQUARE ORNAMENT IN BLACK SQUARE;LEFTWARDS ROCKET;UPWARDS ROCKET",
    "1f66e RIGHTWARDS ROCKET;DOWNWARDS ROCKET;SCRIPT LIGATURE ET ORNAMENT",
    "1f671 HEAVY SCRIPT LIGATURE ET ORNAMENT;LIGATURE OPEN ET ORNAMENT",
    "1f673 HEAVY LIGATURE OPEN ET ORNAMENT;HEAVY AMPERSAND ORNAMENT;SWASH AMPERSAND ORNAMENT",
    "1f676 SANS-SERIF HEAVY DOUBLE TURNED COMMA QUOTATION MARK ORNAMENT",
    "1f677 SANS-SERIF HEAVY DOUBLE COMMA QUOTATION MARK ORNAMENT",
    "1f678 SANS-SERIF HEAVY LOW DOUBLE COMMA QUOTATION MARK ORNAMENT;HEAVY INTERROBANG ORNAMENT",
    "1f67a SANS-SERIF INTERROBANG ORNAMENT;HEAVY SANS-SERIF INTERROBANG ORNAMENT",
    "1f67c VERY HEAVY SOLIDUS;VERY HEAVY REVERSE SOLIDUS;CHECKER BOARD;REVERSE CHECKER BOARD",
    "1f680 ROCKET;HELICOPTER;STEAM LOCOMOTIVE;RAILWAY CAR;HIGH-SPEED TRAIN",
    "1f685 HIGH-SPEED TRAIN WITH BULLET NOSE;TRAIN;METRO;LIGHT RAIL;STATION;TRAM;TRAM CAR;BUS",
    "1f68d ONCOMING BUS;TROLLEYBUS;BUS STOP;MINIBUS;AMBULANCE;FIRE ENGINE;POLICE CAR",
    "1f694 ONCOMING POLICE CAR;TAXI;ONCOMING TAXI;AUTOMOBILE;ONCOMING AUTOMOBILE",
    "1f699 RECREATIONAL VEHICLE;DELIVERY TRUCK;ARTICULATED LORRY;TRACTOR;MONORAIL",
    "1f69e MOUNTAIN RAILWAY;SUSPENSION RAILWAY;MOUNTAIN CABLEWAY;AERIAL TRAMWAY;SHIP;ROWBOAT",
    "1f6a4 SPEEDBOAT;HORIZONTAL TRAFFIC LIGHT;VERTICAL TRAFFIC LIGHT;CONSTRUCTION SIGN",
    "1f6a8 POLICE CARS REVOLVING LIGHT;TRIANGULAR FLAG ON POST;DOOR;NO ENTRY SIGN",
    "1f6ac SMOKING SYMBOL;NO SMOKING SYMBOL;PUT LITTER IN ITS PLACE SYMBOL;DO NOT LITTER SYMBOL",
    "1f6b0 POTABLE WATER SYMBOL;NON-POTABLE WATER SYMBOL;BICYCLE;NO BICYCLES;BICYCLIST",
    "1f6b5 MOUNTAIN BICYCLIST;PEDESTRIAN;NO PEDESTRIANS;CHILDREN CROSSING;MENS SYMBOL",
    "1f6ba WOMENS SYMBOL;RESTROOM;BABY SYMBOL;TOILET;WATER CLOSET;SHOWER;BATH;BATHTUB",
    "1f6c2 PASSPORT CONTROL;CUSTOMS;BAGGAGE CLAIM;LEFT LUGGAGE;TRIANGLE WITH ROUNDED CORNERS",
    "1f6c7 PROHIBITED SIGN;CIRCLED INFORMATION SOURCE;BOYS SYMBOL;GIRLS SYMBOL;COUCH AND LAMP",
    "1f6cc SLEEPING ACCOMMODATION;SHOPPING BAGS;BELLHOP BELL;BED;PLACE OF WORSHIP",
    "1f6d1 OCTAGONAL SIGN;SHOPPING TROLLEY;STUPA;PAGODA;HINDU TEMPLE;HUT;ELEVATOR",
    "1f6dd PLAYGROUND SLIDE;WHEEL;RING BUOY;HAMMER AND WRENCH;SHIELD;OIL DRUM;MOTORWAY",
    "1f6e4 RAILWAY TRACK;MOTOR BOAT;UP-POINTING MILITARY AIRPLANE;UP-POINTING AIRPLANE",
    "1f6e8 UP-POINTING SMALL AIRPLANE;SMALL AIRPLANE;NORTHEAST-POINTING AIRPLANE",
    "1f6eb AIRPLANE DEPARTURE;AIRPLANE ARRIVING",
    "1f6f0 SATELLITE;ONCOMING FIRE ENGINE;DIESEL LOCOMOTIVE;PASSENGER SHIP;SCOOTER",
    "1f6f5 MOTOR SCOOTER;CANOE;SLED;FLYING SAUCER;SKATEBOARD;AUTO RICKSHAW;PICKUP TRUCK",
    "1f6fc ROLLER SKATE",
    "1f700 ALCHEMICAL SYMBOL FOR QUINTESSENCE;ALCHEMICAL SYMBOL FOR AIR",
    "1f702 ALCHEMICAL SYMBOL FOR FIRE;ALCHEMICAL SYMBOL FOR EARTH;ALCHEMICAL SYMBOL FOR WATER",
    "1f705 ALCHEMICAL SYMBOL FOR AQUAFORTIS;ALCHEMICAL SYMBOL FOR AQUA REGIA",
    "1f707 ALCHEMICAL SYMBOL FOR AQUA REGIA-2;ALCHEMICAL SYMBOL FOR AQUA VITAE",
    "1f709 ALCHEMICAL SYMBOL FOR AQUA VITAE-2;ALCHEMICAL SYMBOL FOR VINEGAR",
    "1f70b ALCHEMICAL SYMBOL FOR VINEGAR-2;ALCHEMICAL SYMBOL FOR VINEGAR-3",
    "1f70d ALCHEMICAL SYMBOL FOR SULFUR;ALCHEMICAL SYMBOL FOR PHILOSOPHERS SULFUR",
    "1f70f ALCHEMICAL SYMBOL FOR BLACK SULFUR;ALCHEMICAL SYMBOL FOR MERCURY SUBLIMATE",
    "1f711 ALCHEMICAL SYMBOL FOR MERCURY SUBLIMATE-2;ALCHEMICAL SYMBOL FOR MERCURY SUBLIMATE-3",
    "1f713 ALCHEMICAL SYMBOL FOR CINNABAR;ALCHEMICAL SYMBOL FOR SALT",
    "1f715 ALCHEMICAL SYMBOL FOR NITRE;ALCHEMICAL SYMBOL FOR VITRIOL",
    "1f717 ALCHEMICAL SYMBOL FOR VITRIOL-2;ALCHEMICAL SYMBOL FOR ROCK SALT",
    "1f719 ALCHEMICAL SYMBOL FOR ROCK SALT-2;ALCHEMICAL SYMBOL FOR GOLD",
    "1f71b ALCHEMICAL SYMBOL FOR SILVER;ALCHEMICAL SYMBOL FOR IRON ORE",
    "1f71d ALCHEMICAL SYMBOL FOR IRON ORE-2;ALCHEMICAL SYMBOL FOR CROCUS OF IRON",
    "1f71f ALCHEMICAL SYMBOL FOR REGULUS OF IRON;ALCHEMICAL SYMBOL FOR COPPER ORE",
    "1f721 ALCHEMICAL SYMBOL FOR IRON-COPPER ORE;ALCHEMICAL SYMBOL FOR SUBLIMATE OF COPPER",
    "1f723 ALCHEMICAL SYMBOL FOR CROCUS OF COPPER;ALCHEMICAL SYMBOL FOR CROCUS OF COPPER-2",
    "1f725 ALCHEMICAL SYMBOL FOR COPPER ANTIMONIATE",
    "1f726 ALCHEMICAL SYMBOL FOR SALT OF COPPER ANTIMONIATE",
    "1f727 ALCHEMICAL SYMBOL FOR SUBLIMATE OF SALT OF COPPER;ALCHEMICAL SYMBOL FOR VERDIGRIS",
    "1f729 ALCHEMICAL SYMBOL FOR TIN ORE;ALCHEMICAL SYMBOL FOR LEAD ORE",
    "1f72b ALCHEMICAL SYMBOL FOR ANTIMONY ORE;ALCHEMICAL SYMBOL FOR SUBLIMATE OF ANTIMONY",
    "1f72d ALCHEMICAL SYMBOL FOR SALT OF ANTIMONY",
    "1f72e ALCHEMICAL SYMBOL FOR SUBLIMATE OF SALT OF ANTIMONY",
    "1f72f ALCHEMICAL SYMBOL FOR VINEGAR OF ANTIMONY;ALCHEMICAL SYMBOL FOR REGULUS OF ANTIMONY",
    "1f731 ALCHEMICAL SYMBOL FOR REGULUS OF ANTIMONY-2;ALCHEMICAL SYMBOL FOR REGULUS",
    "1f733 ALCHEMICAL SYMBOL FOR REGULUS-2;ALCHEMICAL SYMBOL FOR REGULUS-3",
    "1f735 ALCHEMICAL SYMBOL FOR REGULUS-4;ALCHEMICAL SYMBOL FOR ALKALI",
    "1f737 ALCHEMICAL SYMBOL FOR ALKALI-2;ALCHEMICAL SYMBOL FOR MARCASITE",
    "1f739 ALCHEMICAL SYMBOL FOR SAL-AMMONIAC;ALCHEMICAL SYMBOL FOR ARSENIC",
    "1f73b ALCHEMICAL SYMBOL FOR REALGAR;ALCHEMICAL SYMBOL FOR REALGAR-2",
    "1f73d ALCHEMICAL SYMBOL FOR AURIPIGMENT;ALCHEMICAL SYMBOL FOR BISMUTH ORE",
    "1f73f ALCHEMICAL SYMBOL FOR TARTAR;ALCHEMICAL SYMBOL FOR TARTAR-2",
    "1f741 ALCHEMICAL SYMBOL FOR QUICK LIME;ALCHEMICAL SYMBOL FOR BORAX",
    "1f743 ALCHEMICAL SYMBOL FOR BORAX-2;ALCHEMICAL SYMBOL FOR BORAX-3",
    "1f745 ALCHEMICAL SYMBOL FOR ALUM;ALCHEMICAL SYMBOL FOR OIL;ALCHEMICAL SYMBOL FOR SPIRIT",
    "1f748 ALCHEMICAL SYMBOL FOR TINCTURE;ALCHEMICAL SYMBOL FOR GUM;ALCHEMICAL SYMBOL FOR WAX",
    "1f74b ALCHEMICAL SYMBOL FOR POWDER;ALCHEMICAL SYMBOL FOR CALX;ALCHEMICAL SYMBOL FOR TUTTY",
    "1f74e ALCHEMICAL SYMBOL FOR CAPUT MORTUUM;ALCHEMICAL SYMBOL FOR SCEPTER OF JOVE",
    "1f750 ALCHEMICAL SYMBOL FOR CADUCEUS;ALCHEMICAL SYMBOL FOR TRIDENT",
    "1f752 ALCHEMICAL SYMBOL FOR STARRED TRIDENT;ALCHEMICAL SYMBOL FOR LODESTONE",
    "1f754 ALCHEMICAL SYMBOL FOR SOAP;ALCHEMICAL SYMBOL FOR URINE",
    "1f756 ALCHEMICAL SYMBOL FOR HORSE DUNG;ALCHEMICAL SYMBOL FOR ASHES",
    "1f758 ALCHEMICAL SYMBOL FOR POT ASHES;ALCHEMICAL SYMBOL FOR BRICK",
    "1f75a ALCHEMICAL SYMBOL FOR POWDERED BRICK;ALCHEMICAL SYMBOL FOR AMALGAM",
    "1f75c ALCHEMICAL SYMBOL FOR STRATUM SUPER STRATUM",
    "1f75d ALCHEMICAL SYMBOL FOR STRATUM SUPER STRATUM-2;ALCHEMICAL SYMBOL FOR SUBLIMATION",
    "1f75f ALCHEMICAL SYMBOL FOR PRECIPITATE;ALCHEMICAL SYMBOL FOR DISTILL",
    "1f761 ALCHEMICAL SYMBOL FOR DISSOLVE;ALCHEMICAL SYMBOL FOR DISSOLVE-2",
    "1f763 ALCHEMICAL SYMBOL FOR PURIFY;ALCHEMICAL SYMBOL FOR PUTREFACTION",
    "1f765 ALCHEMICAL SYMBOL FOR CRUCIBLE;ALCHEMICAL SYMBOL FOR CRUCIBLE-2",
    "1f767 ALCHEMICAL SYMBOL FOR CRUCIBLE-3;ALCHEMICAL SYMBOL FOR CRUCIBLE-4"]

/-- The names from U+1F769 to U+1FA63. -/
def pictureNamesC : List String :=
  ["1f769 ALCHEMICAL SYMBOL FOR CRUCIBLE-5;ALCHEMICAL SYMBOL FOR ALEMBIC",
    "1f76b ALCHEMICAL SYMBOL FOR BATH OF MARY;ALCHEMICAL SYMBOL FOR BATH OF VAPOURS",
    "1f76d ALCHEMICAL SYMBOL FOR RETORT;ALCHEMICAL SYMBOL FOR HOUR;ALCHEMICAL SYMBOL FOR NIGHT",
    "1f770 ALCHEMICAL SYMBOL FOR DAY-NIGHT;ALCHEMICAL SYMBOL FOR MONTH",
    "1f772 ALCHEMICAL SYMBOL FOR HALF DRAM;ALCHEMICAL SYMBOL FOR HALF OUNCE",
    "1f780 BLACK LEFT-POINTING ISOSCELES RIGHT TRIANGLE",
    "1f781 BLACK UP-POINTING ISOSCELES RIGHT TRIANGLE",
    "1f782 BLACK RIGHT-POINTING ISOSCELES RIGHT TRIANGLE",
    "1f783 BLACK DOWN-POINTING ISOSCELES RIGHT TRIANGLE;BLACK SLIGHTLY SMALL CIRCLE",
    "1f785 MEDIUM BOLD WHITE CIRCLE;BOLD WHITE CIRCLE;HEAVY WHITE CIRCLE",
    "1f788 VERY HEAVY WHITE CIRCLE;EXTREMELY HEAVY WHITE CIRCLE",
    "1f78a WHITE CIRCLE CONTAINING BLACK SMALL CIRCLE;ROUND TARGET;BLACK TINY SQUARE",
    "1f78d BLACK SLIGHTLY SMALL SQUARE;LIGHT WHITE SQUARE;MEDIUM WHITE SQUARE;BOLD WHITE SQUARE",
    "1f791 HEAVY WHITE SQUARE;VERY HEAVY WHITE SQUARE;EXTREMELY HEAVY WHITE SQUARE",
    "1f794 WHITE SQUARE CONTAINING BLACK VERY SMALL SQUARE",
    "1f795 WHITE SQUARE CONTAINING BLACK MEDIUM SQUARE;SQUARE TARGET;BLACK TINY DIAMOND",
    "1f798 BLACK VERY SMALL DIAMOND;BLACK MEDIUM SMALL DIAMOND",
    "1f79a WHITE DIAMOND CONTAINING BLACK VERY SMALL DIAMOND",
    "1f79b WHITE DIAMOND CONTAINING BLACK MEDIUM DIAMOND;DIAMOND TARGET;BLACK TINY LOZENGE",
    "1f79e BLACK VERY SMALL LOZENGE;BLACK MEDIUM SMALL LOZENGE",
    "1f7a0 WHITE LOZENGE CONTAINING BLACK SMALL LOZENGE;THIN GREEK CROSS;LIGHT GREEK CROSS",
    "1f7a3 MEDIUM GREEK CROSS;BOLD GREEK CROSS;VERY BOLD GREEK CROSS;VERY HEAVY GREEK CROSS",
    "1f7a7 EXTREMELY HEAVY GREEK CROSS;THIN SALTIRE;LIGHT SALTIRE;MEDIUM SALTIRE;BOLD SALTIRE",
    "1f7ac HEAVY SALTIRE;VERY HEAVY SALTIRE;EXTREMELY HEAVY SALTIRE;LIGHT FIVE SPOKED ASTERISK",
    "1f7b0 MEDIUM FIVE SPOKED ASTERISK;BOLD FIVE SPOKED ASTERISK;HEAVY FIVE SPOKED ASTERISK",
    "1f7b3 VERY HEAVY FIVE SPOKED ASTERISK;EXTREMELY HEAVY FIVE SPOKED ASTERISK",
    "1f7b5 LIGHT SIX SPOKED ASTERISK;MEDIUM SIX SPOKED ASTERISK;BOLD SIX SPOKED ASTERISK",
    "1f7b8 HEAVY SIX SPOKED ASTERISK;VERY HEAVY SIX SPOKED ASTERISK",
    "1f7ba EXTREMELY HEAVY SIX SPOKED ASTERISK;LIGHT EIGHT SPOKED ASTERISK",
    "1f7bc MEDIUM EIGHT SPOKED ASTERISK;BOLD EIGHT SPOKED ASTERISK;HEAVY EIGHT SPOKED ASTERISK",
    "1f7bf VERY HEAVY EIGHT SPOKED ASTERISK;LIGHT THREE POINTED BLACK STAR",
    "1f7c1 MEDIUM THREE POINTED BLACK STAR;THREE POINTED BLACK STAR",
    "1f7c3 MEDIUM THREE POINTED PINWHEEL STAR;LIGHT FOUR POINTED BLACK STAR",
    "1f7c5 MEDIUM FOUR POINTED BLACK STAR;FOUR POINTED BLACK STAR",
    "1f7c7 MEDIUM FOUR POINTED PINWHEEL STAR;REVERSE LIGHT FOUR POINTED PINWHEEL STAR",
    "1f7c9 LIGHT FIVE POINTED BLACK STAR;HEAVY FIVE POINTED BLACK STAR",
    "1f7cb MEDIUM SIX POINTED BLACK STAR;HEAVY SIX POINTED BLACK STAR;SIX POINTED PINWHEEL STAR",
    "1f7ce MEDIUM EIGHT POINTED BLACK STAR;HEAVY EIGHT POINTED BLACK STAR",
    "1f7d0 VERY HEAVY EIGHT POINTED BLACK STAR;HEAVY EIGHT POINTED PINWHEEL STAR",
    "1f7d2 LIGHT TWELVE POINTED BLACK STAR;HEAVY TWELVE POINTED BLACK STAR",
    "1f7d4 HEAVY TWELVE POINTED PINWHEEL STAR;CIRCLED TRIANGLE;NEGATIVE CIRCLED TRIANGLE",
    "1f7d7 CIRCLED SQUARE;NEGATIVE CIRCLED SQUARE",
    "1f7e0 LARGE ORANGE CIRCLE;LARGE YELLOW CIRCLE;LARGE GREEN CIRCLE;LARGE PURPLE CIRCLE",
    "1f7e4 LARGE BROWN CIRCLE;LARGE RED SQUARE;LARGE BLUE SQUARE;LARGE ORANGE SQUARE",
    "1f7e8 LARGE YELLOW SQUARE;LARGE GREEN SQUARE;LARGE PURPLE SQUARE;LARGE BROWN SQUARE",
    "1f7f0 HEAVY EQUALS SIGN",
    "1f800 LEFTWARDS ARROW WITH SMALL TRIANGLE ARROWHEAD",
    "1f801 UPWARDS ARROW WITH SMALL TRIANGLE ARROWHEAD",
    "1f802 RIGHTWARDS ARROW WITH SMALL TRIANGLE ARROWHEAD",
    "1f803 DOWNWARDS ARROW WITH SMALL TRIANGLE ARROWHEAD",
    "1f804 LEFTWARDS ARROW WITH MEDIUM TRIANGLE ARROWHEAD",
    "1f805 UPWARDS ARROW WITH MEDIUM TRIANGLE ARROWHEAD",
    "1f806 RIGHTWARDS ARROW WITH MEDIUM TRIANGLE ARROWHEAD",
    "1f807 DOWNWARDS ARROW WITH MEDIUM TRIANGLE ARROWHEAD",
    "1f808 LEFTWARDS ARROW WITH LARGE TRIANGLE ARROWHEAD",
    "1f809 UPWARDS ARROW WITH LARGE TRIANGLE ARROWHEAD",
    "1f80a RIGHTWARDS ARROW WITH LARGE TRIANGLE ARROWHEAD",
    "1f80b DOWNWARDS ARROW WITH LARGE TRIANGLE ARROWHEAD",
    "1f810 LEFTWARDS ARROW WITH SMALL EQUILATERAL ARROWHEAD",
    "1f811 UPWARDS ARROW WITH SMALL EQUILATERAL ARROWHEAD",
    "1f812 RIGHTWARDS ARROW WITH SMALL EQUILATERAL ARROWHEAD",
    "1f813 DOWNWARDS ARROW WITH SMALL EQUILATERAL ARROWHEAD",
    "1f814 LEFTWARDS ARROW WITH EQUILATERAL ARROWHEAD;UPWARDS ARROW WITH EQUILATERAL ARROWHEAD",
    "1f816 RIGHTWARDS ARROW WITH EQUILATERAL ARROWHEAD",
    "1f817 DOWNWARDS ARROW WITH EQUILATERAL ARROWHEAD",
    "1f818 HEAVY LEFTWARDS ARROW WITH EQUILATERAL ARROWHEAD",
    "1f819 HEAVY UPWARDS ARROW WITH EQUILATERAL ARROWHEAD",
    "1f81a HEAVY RIGHTWARDS ARROW WITH EQUILATERAL ARROWHEAD",
    "1f81b HEAVY DOWNWARDS ARROW WITH EQUILATERAL ARROWHEAD",
    "1f81c HEAVY LEFTWARDS ARROW WITH LARGE EQUILATERAL ARROWHEAD",
    "1f81d HEAVY UPWARDS ARROW WITH LARGE EQUILATERAL ARROWHEAD",
    "1f81e HEAVY RIGHTWARDS ARROW WITH LARGE EQUILATERAL ARROWHEAD",
    "1f81f HEAVY DOWNWARDS ARROW WITH LARGE EQUILATERAL ARROWHEAD",
    "1f820 LEFTWARDS TRIANGLE-HEADED ARROW WITH NARROW SHAFT",
    "1f821 UPWARDS TRIANGLE-HEADED ARROW WITH NARROW SHAFT",
    "1f822 RIGHTWARDS TRIANGLE-HEADED ARROW WITH NARROW SHAFT",
    "1f823 DOWNWARDS TRIANGLE-HEADED ARROW WITH NARROW SHAFT",
    "1f824 LEFTWARDS TRIANGLE-HEADED ARROW WITH MEDIUM SHAFT",
    "1f825 UPWARDS TRIANGLE-HEADED ARROW WITH MEDIUM SHAFT",
    "1f826 RIGHTWARDS TRIANGLE-HEADED ARROW WITH MEDIUM SHAFT",
    "1f827 DOWNWARDS TRIANGLE-HEADED ARROW WITH MEDIUM SHAFT",
    "1f828 LEFTWARDS TRIANGLE-HEADED ARROW WITH BOLD SHAFT",
    "1f829 UPWARDS TRIANGLE-HEADED ARROW WITH BOLD SHAFT",
    "1f82a RIGHTWARDS TRIANGLE-HEADED ARROW WITH BOLD SHAFT",
    "1f82b DOWNWARDS TRIANGLE-HEADED ARROW WITH BOLD SHAFT",
    "1f82c LEFTWARDS TRIANGLE-HEADED ARROW WITH HEAVY SHAFT",
    "1f82d UPWARDS TRIANGLE-HEADED ARROW WITH HEAVY SHAFT",
    "1f82e RIGHTWARDS TRIANGLE-HEADED ARROW WITH HEAVY SHAFT",
    "1f82f DOWNWARDS TRIANGLE-HEADED ARROW WITH HEAVY SHAFT",
    "1f830 LEFTWARDS TRIANGLE-HEADED ARROW WITH VERY HEAVY SHAFT",
    "1f831 UPWARDS TRIANGLE-HEADED ARROW WITH VERY HEAVY SHAFT",
    "1f832 RIGHTWARDS TRIANGLE-HEADED ARROW WITH VERY HEAVY SHAFT",
    "1f833 DOWNWARDS TRIANGLE-HEADED ARROW WITH VERY HEAVY SHAFT;LEFTWARDS FINGER-POST ARROW",
    "1f835 UPWARDS FINGER-POST ARROW;RIGHTWARDS FINGER-POST ARROW;DOWNWARDS FINGER-POST ARROW",
    "1f838 LEFTWARDS SQUARED ARROW;UPWARDS SQUARED ARROW;RIGHTWARDS SQUARED ARROW",
    "1f83b DOWNWARDS SQUARED ARROW;LEFTWARDS COMPRESSED ARROW;UPWARDS COMPRESSED ARROW",
    "1f83e RIGHTWARDS COMPRESSED ARROW;DOWNWARDS COMPRESSED ARROW",
    "1f840 LEFTWARDS HEAVY COMPRESSED ARROW;UPWARDS HEAVY COMPRESSED ARROW",
    "1f842 RIGHTWARDS HEAVY COMPRESSED ARROW;DOWNWARDS HEAVY COMPRESSED ARROW",
    "1f844 LEFTWARDS HEAVY ARROW;UPWARDS HEAVY ARROW;RIGHTWARDS HEAVY ARROW",
    "1f847 DOWNWARDS HEAVY ARROW",
    "1f850 LEFTWARDS SANS-SERIF ARROW;UPWARDS SANS-SERIF ARROW;RIGHTWARDS SANS-SERIF ARROW",
    "1f853 DOWNWARDS SANS-SERIF ARROW;NORTH WEST SANS-SERIF ARROW;NORTH EAST SANS-SERIF ARROW",
    "1f856 SOUTH EAST SANS-SERIF ARROW;SOUTH WEST SANS-SERIF ARROW;LEFT RIGHT SANS-SERIF ARROW",
    "1f859 UP DOWN SANS-SERIF ARROW",
    "1f860 WIDE-HEADED LEFTWARDS LIGHT BARB ARROW;WIDE-HEADED UPWARDS LIGHT BARB ARROW",
    "1f862 WIDE-HEADED RIGHTWARDS LIGHT BARB ARROW;WIDE-HEADED DOWNWARDS LIGHT BARB ARROW",
    "1f864 WIDE-HEADED NORTH WEST LIGHT BARB ARROW;WIDE-HEADED NORTH EAST LIGHT BARB ARROW",
    "1f866 WIDE-HEADED SOUTH EAST LIGHT BARB ARROW;WIDE-HEADED SOUTH WEST LIGHT BARB ARROW",
    "1f868 WIDE-HEADED LEFTWARDS BARB ARROW;WIDE-HEADED UPWARDS BARB ARROW",
    "1f86a WIDE-HEADED RIGHTWARDS BARB ARROW;WIDE-HEADED DOWNWARDS BARB ARROW",
    "1f86c WIDE-HEADED NORTH WEST BARB ARROW;WIDE-HEADED NORTH EAST BARB ARROW",
    "1f86e WIDE-HEADED SOUTH EAST BARB ARROW;WIDE-HEADED SOUTH WEST BARB ARROW",
    "1f870 WIDE-HEADED LEFTWARDS MEDIUM BARB ARROW;WIDE-HEADED UPWARDS MEDIUM BARB ARROW",
    "1f872 WIDE-HEADED RIGHTWARDS MEDIUM BARB ARROW;WIDE-HEADED DOWNWARDS MEDIUM BARB ARROW",
    "1f874 WIDE-HEADED NORTH WEST MEDIUM BARB ARROW;WIDE-HEADED NORTH EAST MEDIUM BARB ARROW",
    "1f876 WIDE-HEADED SOUTH EAST MEDIUM BARB ARROW;WIDE-HEADED SOUTH WEST MEDIUM BARB ARROW",
    "1f878 WIDE-HEADED LEFTWARDS HEAVY BARB ARROW;WIDE-HEADED UPWARDS HEAVY BARB ARROW",
    "1f87a WIDE-HEADED RIGHTWARDS HEAVY BARB ARROW;WIDE-HEADED DOWNWARDS HEAVY BARB ARROW",
    "1f87c WIDE-HEADED NORTH WEST HEAVY BARB ARROW;WIDE-HEADED NORTH EAST HEAVY BARB ARROW",
    "1f87e WIDE-HEADED SOUTH EAST HEAVY BARB ARROW;WIDE-HEADED SOUTH WEST HEAVY BARB ARROW",
    "1f880 WIDE-HEADED LEFTWARDS VERY HEAVY BARB ARROW",
    "1f881 WIDE-HEADED UPWARDS VERY HEAVY BARB ARROW",
    "1f882 WIDE-HEADED RIGHTWARDS VERY HEAVY BARB ARROW",
    "1f883 WIDE-HEADED DOWNWARDS VERY HEAVY BARB ARROW",
    "1f884 WIDE-HEADED NORTH WEST VERY HEAVY BARB ARROW",
    "1f885 WIDE-HEADED NORTH EAST VERY HEAVY BARB ARROW",
    "1f886 WIDE-HEADED SOUTH EAST VERY HEAVY BARB ARROW",
    "1f887 WIDE-HEADED SOUTH WEST VERY HEAVY BARB ARROW",
    "1f890 LEFTWARDS TRIANGLE ARROWHEAD;UPWARDS TRIANGLE ARROWHEAD",
    "1f892 RIGHTWARDS TRIANGLE ARROWHEAD;DOWNWARDS TRIANGLE ARROWHEAD",
    "1f894 LEFTWARDS WHITE ARROW WITHIN TRIANGLE ARROWHEAD",
    "1f895 UPWARDS WHITE ARROW WITHIN TRIANGLE ARROWHEAD",
    "1f896 RIGHTWARDS WHITE ARROW WITHIN TRIANGLE ARROWHEAD",
    "1f897 DOWNWARDS WHITE ARROW WITHIN TRIANGLE ARROWHEAD;LEFTWARDS ARROW WITH NOTCHED TAIL",
    "1f899 UPWARDS ARROW WITH NOTCHED TAIL;RIGHTWARDS ARROW WITH NOTCHED TAIL",
    "1f89b DOWNWARDS ARROW WITH NOTCHED TAIL;HEAVY ARROW SHAFT WIDTH ONE",
    "1f89d HEAVY ARROW SHAFT WIDTH TWO THIRDS;HEAVY ARROW SHAFT WIDTH ONE HALF",
    "1f89f HEAVY ARROW SHAFT WIDTH ONE THIRD;LEFTWARDS BOTTOM-SHADED WHITE ARROW",
    "1f8a1 RIGHTWARDS BOTTOM SHADED WHITE ARROW;LEFTWARDS TOP SHADED WHITE ARROW",
    "1f8a3 RIGHTWARDS TOP SHADED WHITE ARROW;LEFTWARDS LEFT-SHADED WHITE ARROW",
    "1f8a5 RIGHTWARDS RIGHT-SHADED WHITE ARROW;LEFTWARDS RIGHT-SHADED WHITE ARROW",
    "1f8a7 RIGHTWARDS LEFT-SHADED WHITE ARROW;LEFTWARDS BACK-TILTED SHADOWED WHITE ARROW",
    "1f8a9 RIGHTWARDS BACK-TILTED SHADOWED WHITE ARROW",
    "1f8aa LEFTWARDS FRONT-TILTED SHADOWED WHITE ARROW",
    "1f8ab RIGHTWARDS FRONT-TILTED SHADOWED WHITE ARROW;WHITE ARROW SHAFT WIDTH ONE",
    "1f8ad WHITE ARROW SHAFT WIDTH TWO THIRDS",
    "1f8b0 ARROW POINTING UPWARDS THEN NORTH WEST",
    "1f8b1 ARROW POINTING RIGHTWARDS THEN CURVING SOUTH WEST",
    "1f900 CIRCLED CROSS FORMEE WITH FOUR DOTS;CIRCLED CROSS FORMEE WITH TWO DOTS",
    "1f902 CIRCLED CROSS FORMEE;LEFT HALF CIRCLE WITH FOUR DOTS",
    "1f904 LEFT HALF CIRCLE WITH THREE DOTS;LEFT HALF CIRCLE WITH TWO DOTS",
    "1f906 LEFT HALF CIRCLE WITH DOT;LEFT HALF CIRCLE;DOWNWARD FACING HOOK",
    "1f909 DOWNWARD FACING NOTCHED HOOK;DOWNWARD FACING HOOK WITH DOT",
    "1f90b DOWNWARD FACING NOTCHED HOOK WITH DOT;PINCHED FINGERS;WHITE HEART;BROWN HEART",
    "1f90f PINCHING HAND;ZIPPER-MOUTH FACE;MONEY-MOUTH FACE;FACE WITH THERMOMETER;NERD FACE",
    "1f914 THINKING FACE;FACE WITH HEAD-BANDAGE;ROBOT FACE;HUGGING FACE;SIGN OF THE HORNS",
    "1f919 CALL ME HAND;RAISED BACK OF HAND;LEFT-FACING FIST;RIGHT-FACING FIST;HANDSHAKE",
    "1f91e HAND WITH INDEX AND MIDDLE FINGERS CROSSED;I LOVE YOU HAND SIGN;FACE WITH COWBOY HAT",
    "1f921 CLOWN FACE;NAUSEATED FACE;ROLLING ON THE FLOOR LAUGHING;DROOLING FACE;LYING FACE",
    "1f926 FACE PALM;SNEEZING FACE;FACE WITH ONE EYEBROW RAISED;GRINNING FACE WITH STAR EYES",
    "1f92a GRINNING FACE WITH ONE LARGE AND ONE SMALL EYE;FACE WITH FINGER COVERING CLOSED LIPS",
    "1f92c SERIOUS FACE WITH SYMBOLS COVERING MOUTH",
    "1f92d SMILING FACE WITH SMILING EYES AND HAND COVERING MOUTH;FACE WITH OPEN MOUTH VOMITING",
    "1f92f SHOCKED FACE WITH EXPLODING HEAD;PREGNANT WOMAN;BREAST-FEEDING;PALMS UP TOGETHER",
    "1f933 SELFIE;PRINCE;MAN IN TUXEDO;MOTHER CHRISTMAS;SHRUG;PERSON DOING CARTWHEEL;JUGGLING",
    "1f93a FENCER;MODERN PENTATHLON;WRESTLERS;WATER POLO;HANDBALL;DIVING MASK;WILTED FLOWER",
    "1f941 DRUM WITH DRUMSTICKS;CLINKING GLASSES;TUMBLER GLASS;SPOON;GOAL NET;RIFLE",
    "1f947 FIRST PLACE MEDAL;SECOND PLACE MEDAL;THIRD PLACE MEDAL;BOXING GLOVE",
    "1f94b MARTIAL ARTS UNIFORM;CURLING STONE;LACROSSE STICK AND BALL;SOFTBALL;FLYING DISC",
    "1f950 CROISSANT;AVOCADO;CUCUMBER;BACON;POTATO;CARROT;BAGUETTE BREAD;GREEN SALAD",
    "1f958 SHALLOW PAN OF FOOD;STUFFED FLATBREAD;EGG;GLASS OF MILK;PEANUTS;KIWIFRUIT;PANCAKES",
    "1f95f DUMPLING;FORTUNE COOKIE;TAKEOUT BOX;CHOPSTICKS;BOWL WITH SPOON;CUP WITH STRAW",
    "1f965 COCONUT;BROCCOLI;PIE;PRETZEL;CUT OF MEAT;SANDWICH;CANNED FOOD;LEAFY GREEN;MANGO",
    "1f96e MOON CAKE;BAGEL;SMILING FACE WITH SMILING EYES AND THREE HEARTS;YAWNING FACE",
    "1f972 SMILING FACE WITH TEAR;FACE WITH PARTY HORN AND PARTY HAT",
    "1f974 FACE WITH UNEVEN EYES AND WAVY MOUTH;OVERHEATED FACE;FREEZING FACE;NINJA",
    "1f978 DISGUISED FACE;FACE HOLDING BACK TEARS;FACE WITH PLEADING EYES;SARI;LAB COAT;GOGGLES",
    "1f97e HIKING BOOT;FLAT SHOE;CRAB;LION FACE;SCORPION;TURKEY;UNICORN FACE;EAGLE;DUCK;BAT",
    "1f988 SHARK;OWL;FOX FACE;BUTTERFLY;DEER;GORILLA;LIZARD;RHINOCEROS;SHRIMP;SQUID",
    "1f992 GIRAFFE FACE;ZEBRA FACE;HEDGEHOG;SAUROPOD;T-REX;CRICKET;KANGAROO;LLAMA;PEACOCK",
    "1f99b HIPPOPOTAMUS;PARROT;RACCOON;LOBSTER;MOSQUITO;MICROBE;BADGER;SWAN;MAMMOTH;DODO;SLOTH",
    "1f9a6 OTTER;ORANGUTAN;SKUNK;FLAMINGO;OYSTER;BEAVER;BISON;SEAL;GUIDE DOG;PROBING CANE",
    "1f9b0 EMOJI COMPONENT RED HAIR;EMOJI COMPONENT CURLY HAIR;EMOJI COMPONENT BALD",
    "1f9b3 EMOJI COMPONENT WHITE HAIR;BONE;LEG;FOOT;TOOTH;SUPERHERO;SUPERVILLAIN;SAFETY VEST",
    "1f9bb EAR WITH HEARING AID;MOTORIZED WHEELCHAIR;MANUAL WHEELCHAIR;MECHANICAL ARM",
    "1f9bf MECHANICAL LEG;CHEESE WEDGE;CUPCAKE;SALT SHAKER;BEVERAGE BOX;GARLIC;ONION;FALAFEL",
    "1f9c7 WAFFLE;BUTTER;MATE DRINK;ICE CUBE;BUBBLE TEA;TROLL;STANDING PERSON;KNEELING PERSON",
    "1f9cf DEAF PERSON;FACE WITH MONOCLE;ADULT;CHILD;OLDER ADULT;BEARDED PERSON",
    "1f9d5 PERSON WITH HEADSCARF;PERSON IN STEAMY ROOM;PERSON CLIMBING;PERSON IN LOTUS POSITION",
    "1f9d9 MAGE;FAIRY;VAMPIRE;MERPERSON;ELF;GENIE;ZOMBIE;BRAIN;ORANGE HEART;BILLED CAP;SCARF",
    "1f9e4 GLOVES;COAT;SOCKS;RED GIFT ENVELOPE;FIRECRACKER;JIGSAW PUZZLE PIECE;TEST TUBE",
    "1f9eb PETRI DISH;DNA DOUBLE HELIX;COMPASS;ABACUS;FIRE EXTINGUISHER;TOOLBOX;BRICK;MAGNET",
    "1f9f3 LUGGAGE;LOTION BOTTLE;SPOOL OF THREAD;BALL OF YARN;SAFETY PIN;TEDDY BEAR;BROOM",
    "1f9fa BASKET;ROLL OF PAPER;BAR OF SOAP;SPONGE;RECEIPT;NAZAR AMULET;NEUTRAL CHESS KING",
    "1fa01 NEUTRAL CHESS QUEEN;NEUTRAL CHESS ROOK;NEUTRAL CHESS BISHOP;NEUTRAL CHESS KNIGHT",
    "1fa05 NEUTRAL CHESS PAWN;WHITE CHESS KNIGHT ROTATED FORTY-FIVE DEGREES",
    "1fa07 BLACK CHESS KNIGHT ROTATED FORTY-FIVE DEGREES",
    "1fa08 NEUTRAL CHESS KNIGHT ROTATED FORTY-FIVE DEGREES",
    "1fa09 WHITE CHESS KING ROTATED NINETY DEGREES;WHITE CHESS QUEEN ROTATED NINETY DEGREES",
    "1fa0b WHITE CHESS ROOK ROTATED NINETY DEGREES;WHITE CHESS BISHOP ROTATED NINETY DEGREES",
    "1fa0d WHITE CHESS KNIGHT ROTATED NINETY DEGREES;WHITE CHESS PAWN ROTATED NINETY DEGREES",
    "1fa0f BLACK CHESS KING ROTATED NINETY DEGREES;BLACK CHESS QUEEN ROTATED NINETY DEGREES",
    "1fa11 BLACK CHESS ROOK ROTATED NINETY DEGREES;BLACK CHESS BISHOP ROTATED NINETY DEGREES",
    "1fa13 BLACK CHESS KNIGHT ROTATED NINETY DEGREES;BLACK CHESS PAWN ROTATED NINETY DEGREES",
    "1fa15 NEUTRAL CHESS KING ROTATED NINETY DEGREES;NEUTRAL CHESS QUEEN ROTATED NINETY DEGREES",
    "1fa17 NEUTRAL CHESS ROOK ROTATED NINETY DEGREES",
    "1fa18 NEUTRAL CHESS BISHOP ROTATED NINETY DEGREES",
    "1fa19 NEUTRAL CHESS KNIGHT ROTATED NINETY DEGREES",
    "1fa1a NEUTRAL CHESS PAWN ROTATED NINETY DEGREES",
    "1fa1b WHITE CHESS KNIGHT ROTATED ONE HUNDRED THIRTY-FIVE DEGREES",
    "1fa1c BLACK CHESS KNIGHT ROTATED ONE HUNDRED THIRTY-FIVE DEGREES",
    "1fa1d NEUTRAL CHESS KNIGHT ROTATED ONE HUNDRED THIRTY-FIVE DEGREES;WHITE CHESS TURNED KING",
    "1fa1f WHITE CHESS TURNED QUEEN;WHITE CHESS TURNED ROOK;WHITE CHESS TURNED BISHOP",
    "1fa22 WHITE CHESS TURNED KNIGHT;WHITE CHESS TURNED PAWN;BLACK CHESS TURNED KING",
    "1fa25 BLACK CHESS TURNED QUEEN;BLACK CHESS TURNED ROOK;BLACK CHESS TURNED BISHOP",
    "1fa28 BLACK CHESS TURNED KNIGHT;BLACK CHESS TURNED PAWN;NEUTRAL CHESS TURNED KING",
    "1fa2b NEUTRAL CHESS TURNED QUEEN;NEUTRAL CHESS TURNED ROOK;NEUTRAL CHESS TURNED BISHOP",
    "1fa2e NEUTRAL CHESS TURNED KNIGHT;NEUTRAL CHESS TURNED PAWN",
    "1fa30 WHITE CHESS KNIGHT ROTATED TWO HUNDRED TWENTY-FIVE DEGREES",
    "1fa31 BLACK CHESS KNIGHT ROTATED TWO HUNDRED TWENTY-FIVE DEGREES",
    "1fa32 NEUTRAL CHESS KNIGHT ROTATED TWO HUNDRED TWENTY-FIVE DEGREES",
    "1fa33 WHITE CHESS KING ROTATED TWO HUNDRED SEVENTY DEGREES",
    "1fa34 WHITE CHESS QUEEN ROTATED TWO HUNDRED SEVENTY DEGREES",
    "1fa35 WHITE CHESS ROOK ROTATED TWO HUNDRED SEVENTY DEGREES",
    "1fa36 WHITE CHESS BISHOP ROTATED TWO HUNDRED SEVENTY DEGREES",
    "1fa37 WHITE CHESS KNIGHT ROTATED TWO HUNDRED SEVENTY DEGREES",
    "1fa38 WHITE CHESS PAWN ROTATED TWO HUNDRED SEVENTY DEGREES",
    "1fa39 BLACK CHESS KING ROTATED TWO HUNDRED SEVENTY DEGREES",
    "1fa3a BLACK CHESS QUEEN ROTATED TWO HUNDRED SEVENTY DEGREES",
    "1fa3b BLACK CHESS ROOK ROTATED TWO HUNDRED SEVENTY DEGREES",
    "1fa3c BLACK CHESS BISHOP ROTATED TWO HUNDRED SEVENTY DEGREES",
    "1fa3d BLACK CHESS KNIGHT ROTATED TWO HUNDRED SEVENTY DEGREES",
    "1fa3e BLACK CHESS PAWN ROTATED TWO HUNDRED SEVENTY DEGREES",
    "1fa3f NEUTRAL CHESS KING ROTATED TWO HUNDRED SEVENTY DEGREES",
    "1fa40 NEUTRAL CHESS QUEEN ROTATED TWO HUNDRED SEVENTY DEGREES",
    "1fa41 NEUTRAL CHESS ROOK ROTATED TWO HUNDRED SEVENTY DEGREES",
    "1fa42 NEUTRAL CHESS BISHOP ROTATED TWO HUNDRED SEVENTY DEGREES",
    "1fa43 NEUTRAL CHESS KNIGHT ROTATED TWO HUNDRED SEVENTY DEGREES",
    "1fa44 NEUTRAL CHESS PAWN ROTATED TWO HUNDRED SEVENTY DEGREES",
    "1fa45 WHITE CHESS KNIGHT ROTATED THREE HUNDRED FIFTEEN DEGREES",
    "1fa46 BLACK CHESS KNIGHT ROTATED THREE HUNDRED FIFTEEN DEGREES",
    "1fa47 NEUTRAL CHESS KNIGHT ROTATED THREE HUNDRED FIFTEEN DEGREES;WHITE CHESS EQUIHOPPER",
    "1fa49 BLACK CHESS EQUIHOPPER;NEUTRAL CHESS EQUIHOPPER",
    "1fa4b WHITE CHESS EQUIHOPPER ROTATED NINETY DEGREES",
    "1fa4c BLACK CHESS EQUIHOPPER ROTATED NINETY DEGREES",
    "1fa4d NEUTRAL CHESS EQUIHOPPER ROTATED NINETY DEGREES;WHITE CHESS KNIGHT-QUEEN",
    "1fa4f WHITE CHESS KNIGHT-ROOK;WHITE CHESS KNIGHT-BISHOP;BLACK CHESS KNIGHT-QUEEN",
    "1fa52 BLACK CHESS KNIGHT-ROOK;BLACK CHESS KNIGHT-BISHOP",
    "1fa60 XIANGQI RED GENERAL;XIANGQI RED MANDARIN;XIANGQI RED ELEPHANT;XIANGQI RED HORSE"]

/-- The names from U+1FA64 to U+1FAF6. -/
def pictureNamesD : List String :=
  ["1fa64 XIANGQI RED CHARIOT;XIANGQI RED CANNON;XIANGQI RED SOLDIER;XIANGQI BLACK GENERAL",
    "1fa68 XIANGQI BLACK MANDARIN;XIANGQI BLACK ELEPHANT;XIANGQI BLACK HORSE",
    "1fa6b XIANGQI BLACK CHARIOT;XIANGQI BLACK CANNON;XIANGQI BLACK SOLDIER",
    "1fa70 BALLET SHOES;ONE-PIECE SWIMSUIT;BRIEFS;SHORTS;THONG SANDAL",
    "1fa78 DROP OF BLOOD;ADHESIVE BANDAGE;STETHOSCOPE;X-RAY;CRUTCH",
    "1fa80 YO-YO;KITE;PARACHUTE;BOOMERANG;MAGIC WAND;PINATA;NESTING DOLLS",
    "1fa90 RINGED PLANET;CHAIR;RAZOR;AXE;DIYA LAMP;BANJO;MILITARY HELMET;ACCORDION;LONG DRUM",
    "1fa99 COIN;CARPENTRY SAW;SCREWDRIVER;LADDER;HOOK;MIRROR;WINDOW;PLUNGER;SEWING NEEDLE;KNOT",
    "1faa3 BUCKET;MOUSE TRAP;TOOTHBRUSH;HEADSTONE;PLACARD;ROCK;MIRROR BALL;IDENTIFICATION CARD",
    "1faab LOW BATTERY;HAMSA",
    "1fab0 FLY;WORM;BEETLE;COCKROACH;POTTED PLANT;WOOD;FEATHER;LOTUS;CORAL;EMPTY NEST",
    "1faba NEST WITH EGGS",
    "1fac0 ANATOMICAL HEART;LUNGS;PEOPLE HUGGING;PREGNANT MAN;PREGNANT PERSON;PERSON WITH CROWN",
    "1fad0 BLUEBERRIES;BELL PEPPER;OLIVE;FLATBREAD;TAMALE;FONDUE;TEAPOT;POURING LIQUID;BEANS",
    "1fad9 JAR",
    "1fae0 MELTING FACE;SALUTING FACE;FACE WITH OPEN EYES AND HAND OVER MOUTH",
    "1fae3 FACE WITH PEEKING EYE;FACE WITH DIAGONAL MOUTH;DOTTED LINE FACE;BITING LIP;BUBBLES",
    "1faf0 HAND WITH INDEX FINGER AND THUMB CROSSED;RIGHTWARDS HAND;LEFTWARDS HAND",
    "1faf3 PALM DOWN HAND;PALM UP HAND;INDEX POINTING AT THE VIEWER;HEART HANDS"]

end ClientGen.Text
