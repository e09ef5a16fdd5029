/-!
# Names of common characters

Which names of characters a pattern may use is left open wherever patterns are read.  To run the
program there are the Unicode names of common characters: ASCII and Latin-1, Greek, punctuation,
currency signs, arrows and symbols, and the aliases of some controls.
-/

namespace GrammarFuzz.Text

/-- Names and code points. -/
def commonNameTable : List (String × Nat) := [
    ("SPACE", 0x20), ("EXCLAMATION MARK", 0x21), ("QUOTATION MARK", 0x22), ("NUMBER SIGN", 0x23),
    ("DOLLAR SIGN", 0x24), ("PERCENT SIGN", 0x25), ("AMPERSAND", 0x26), ("APOSTROPHE", 0x27),
    ("LEFT PARENTHESIS", 0x28), ("RIGHT PARENTHESIS", 0x29), ("ASTERISK", 0x2a),
    ("PLUS SIGN", 0x2b), ("COMMA", 0x2c), ("HYPHEN-MINUS", 0x2d), ("FULL STOP", 0x2e),
    ("SOLIDUS", 0x2f), ("DIGIT ZERO", 0x30), ("DIGIT ONE", 0x31), ("DIGIT TWO", 0x32),
    ("DIGIT THREE", 0x33), ("DIGIT FOUR", 0x34), ("DIGIT FIVE", 0x35), ("DIGIT SIX", 0x36),
    ("DIGIT SEVEN", 0x37), ("DIGIT EIGHT", 0x38), ("DIGIT NINE", 0x39), ("COLON", 0x3a),
    ("SEMICOLON", 0x3b), ("LESS-THAN SIGN", 0x3c), ("EQUALS SIGN", 0x3d),
    ("GREATER-THAN SIGN", 0x3e), ("QUESTION MARK", 0x3f), ("COMMERCIAL AT", 0x40),
    ("LATIN CAPITAL LETTER A", 0x41), ("LATIN CAPITAL LETTER B", 0x42),
    ("LATIN CAPITAL LETTER C", 0x43), ("LATIN CAPITAL LETTER D", 0x44),
    ("LATIN CAPITAL LETTER E", 0x45), ("LATIN CAPITAL LETTER F", 0x46),
    ("LATIN CAPITAL LETTER G", 0x47), ("LATIN CAPITAL LETTER H", 0x48),
    ("LATIN CAPITAL LETTER I", 0x49), ("LATIN CAPITAL LETTER J", 0x4a),
    ("LATIN CAPITAL LETTER K", 0x4b), ("LATIN CAPITAL LETTER L", 0x4c),
    ("LATIN CAPITAL LETTER M", 0x4d), ("LATIN CAPITAL LETTER N", 0x4e),
    ("LATIN CAPITAL LETTER O", 0x4f), ("LATIN CAPITAL LETTER P", 0x50),
    ("LATIN CAPITAL LETTER Q", 0x51), ("LATIN CAPITAL LETTER R", 0x52),
    ("LATIN CAPITAL LETTER S", 0x53), ("LATIN CAPITAL LETTER T", 0x54),
    ("LATIN CAPITAL LETTER U", 0x55), ("LATIN CAPITAL LETTER V", 0x56),
    ("LATIN CAPITAL LETTER W", 0x57), ("LATIN CAPITAL LETTER X", 0x58),
    ("LATIN CAPITAL LETTER Y", 0x59), ("LATIN CAPITAL LETTER Z", 0x5a),
    ("LEFT SQUARE BRACKET", 0x5b), ("REVERSE SOLIDUS", 0x5c), ("RIGHT SQUARE BRACKET", 0x5d),
    ("CIRCUMFLEX ACCENT", 0x5e), ("LOW LINE", 0x5f), ("GRAVE ACCENT", 0x60),
    ("LATIN SMALL LETTER A", 0x61), ("LATIN SMALL LETTER B", 0x62), ("LATIN SMALL LETTER C", 0x63),
    ("LATIN SMALL LETTER D", 0x64), ("LATIN SMALL LETTER E", 0x65), ("LATIN SMALL LETTER F", 0x66),
    ("LATIN SMALL LETTER G", 0x67), ("LATIN SMALL LETTER H", 0x68), ("LATIN SMALL LETTER I", 0x69),
    ("LATIN SMALL LETTER J", 0x6a), ("LATIN SMALL LETTER K", 0x6b), ("LATIN SMALL LETTER L", 0x6c),
    ("LATIN SMALL LETTER M", 0x6d), ("LATIN SMALL LETTER N", 0x6e), ("LATIN SMALL LETTER O", 0x6f),
    ("LATIN SMALL LETTER P", 0x70), ("LATIN SMALL LETTER Q", 0x71), ("LATIN SMALL LETTER R", 0x72),
    ("LATIN SMALL LETTER S", 0x73), ("LATIN SMALL LETTER T", 0x74), ("LATIN SMALL LETTER U", 0x75),
    ("LATIN SMALL LETTER V", 0x76), ("LATIN SMALL LETTER W", 0x77), ("LATIN SMALL LETTER X", 0x78),
    ("LATIN SMALL LETTER Y", 0x79), ("LATIN SMALL LETTER Z", 0x7a), ("LEFT CURLY BRACKET", 0x7b),
    ("VERTICAL LINE", 0x7c), ("RIGHT CURLY BRACKET", 0x7d), ("TILDE", 0x7e),
    ("NO-BREAK SPACE", 0xa0), ("INVERTED EXCLAMATION MARK", 0xa1), ("CENT SIGN", 0xa2),
    ("POUND SIGN", 0xa3), ("CURRENCY SIGN", 0xa4), ("YEN SIGN", 0xa5), ("BROKEN BAR", 0xa6),
    ("SECTION SIGN", 0xa7), ("DIAERESIS", 0xa8), ("COPYRIGHT SIGN", 0xa9),
    ("FEMININE ORDINAL INDICATOR", 0xaa), ("LEFT-POINTING DOUBLE ANGLE QUOTATION MARK", 0xab),
    ("NOT SIGN", 0xac), ("SOFT HYPHEN", 0xad), ("REGISTERED SIGN", 0xae), ("MACRON", 0xaf),
    ("DEGREE SIGN", 0xb0), ("PLUS-MINUS SIGN", 0xb1), ("SUPERSCRIPT TWO", 0xb2),
    ("SUPERSCRIPT THREE", 0xb3), ("ACUTE ACCENT", 0xb4), ("MICRO SIGN", 0xb5),
    ("PILCROW SIGN", 0xb6), ("MIDDLE DOT", 0xb7), ("CEDILLA", 0xb8), ("SUPERSCRIPT ONE", 0xb9),
    ("MASCULINE ORDINAL INDICATOR", 0xba), ("RIGHT-POINTING DOUBLE ANGLE QUOTATION MARK", 0xbb),
    ("VULGAR FRACTION ONE QUARTER", 0xbc), ("VULGAR FRACTION ONE HALF", 0xbd),
    ("VULGAR FRACTION THREE QUARTERS", 0xbe), ("INVERTED QUESTION MARK", 0xbf),
    ("LATIN CAPITAL LETTER A WITH GRAVE", 0xc0), ("LATIN CAPITAL LETTER A WITH ACUTE", 0xc1),
    ("LATIN CAPITAL LETTER A WITH CIRCUMFLEX", 0xc2), ("LATIN CAPITAL LETTER A WITH TILDE", 0xc3),
    ("LATIN CAPITAL LETTER A WITH DIAERESIS", 0xc4),
    ("LATIN CAPITAL LETTER A WITH RING ABOVE", 0xc5), ("LATIN CAPITAL LETTER AE", 0xc6),
    ("LATIN CAPITAL LETTER C WITH CEDILLA", 0xc7), ("LATIN CAPITAL LETTER E WITH GRAVE", 0xc8),
    ("LATIN CAPITAL LETTER E WITH ACUTE", 0xc9), ("LATIN CAPITAL LETTER E WITH CIRCUMFLEX", 0xca),
    ("LATIN CAPITAL LETTER E WITH DIAERESIS", 0xcb), ("LATIN CAPITAL LETTER I WITH GRAVE", 0xcc),
    ("LATIN CAPITAL LETTER I WITH ACUTE", 0xcd), ("LATIN CAPITAL LETTER I WITH CIRCUMFLEX", 0xce),
    ("LATIN CAPITAL LETTER I WITH DIAERESIS", 0xcf), ("LATIN CAPITAL LETTER ETH", 0xd0),
    ("LATIN CAPITAL LETTER N WITH TILDE", 0xd1), ("LATIN CAPITAL LETTER O WITH GRAVE", 0xd2),
    ("LATIN CAPITAL LETTER O WITH ACUTE", 0xd3), ("LATIN CAPITAL LETTER O WITH CIRCUMFLEX", 0xd4),
    ("LATIN CAPITAL LETTER O WITH TILDE", 0xd5), ("LATIN CAPITAL LETTER O WITH DIAERESIS", 0xd6),
    ("MULTIPLICATION SIGN", 0xd7), ("LATIN CAPITAL LETTER O WITH STROKE", 0xd8),
    ("LATIN CAPITAL LETTER U WITH GRAVE", 0xd9), ("LATIN CAPITAL LETTER U WITH ACUTE", 0xda),
    ("LATIN CAPITAL LETTER U WITH CIRCUMFLEX", 0xdb),
    ("LATIN CAPITAL LETTER U WITH DIAERESIS", 0xdc), ("LATIN CAPITAL LETTER Y WITH ACUTE", 0xdd),
    ("LATIN CAPITAL LETTER THORN", 0xde), ("LATIN SMALL LETTER SHARP S", 0xdf),
    ("LATIN SMALL LETTER A WITH GRAVE", 0xe0), ("LATIN SMALL LETTER A WITH ACUTE", 0xe1),
    ("LATIN SMALL LETTER A WITH CIRCUMFLEX", 0xe2), ("LATIN SMALL LETTER A WITH TILDE", 0xe3),
    ("LATIN SMALL LETTER A WITH DIAERESIS", 0xe4), ("LATIN SMALL LETTER A WITH RING ABOVE", 0xe5),
    ("LATIN SMALL LETTER AE", 0xe6), ("LATIN SMALL LETTER C WITH CEDILLA", 0xe7),
    ("LATIN SMALL LETTER E WITH GRAVE", 0xe8), ("LATIN SMALL LETTER E WITH ACUTE", 0xe9),
    ("LATIN SMALL LETTER E WITH CIRCUMFLEX", 0xea), ("LATIN SMALL LETTER E WITH DIAERESIS", 0xeb),
    ("LATIN SMALL LETTER I WITH GRAVE", 0xec), ("LATIN SMALL LETTER I WITH ACUTE", 0xed),
    ("LATIN SMALL LETTER I WITH CIRCUMFLEX", 0xee), ("LATIN SMALL LETTER I WITH DIAERESIS", 0xef),
    ("LATIN SMALL LETTER ETH", 0xf0), ("LATIN SMALL LETTER N WITH TILDE", 0xf1),
    ("LATIN SMALL LETTER O WITH GRAVE", 0xf2), ("LATIN SMALL LETTER O WITH ACUTE", 0xf3),
    ("LATIN SMALL LETTER O WITH CIRCUMFLEX", 0xf4), ("LATIN SMALL LETTER O WITH TILDE", 0xf5),
    ("LATIN SMALL LETTER O WITH DIAERESIS", 0xf6), ("DIVISION SIGN", 0xf7),
    ("LATIN SMALL LETTER O WITH STROKE", 0xf8), ("LATIN SMALL LETTER U WITH GRAVE", 0xf9),
    ("LATIN SMALL LETTER U WITH ACUTE", 0xfa), ("LATIN SMALL LETTER U WITH CIRCUMFLEX", 0xfb),
    ("LATIN SMALL LETTER U WITH DIAERESIS", 0xfc), ("LATIN SMALL LETTER Y WITH ACUTE", 0xfd),
    ("LATIN SMALL LETTER THORN", 0xfe), ("LATIN SMALL LETTER Y WITH DIAERESIS", 0xff),
    ("GREEK CAPITAL LETTER HETA", 0x370), ("GREEK SMALL LETTER HETA", 0x371),
    ("GREEK CAPITAL LETTER ARCHAIC SAMPI", 0x372), ("GREEK SMALL LETTER ARCHAIC SAMPI", 0x373),
    ("GREEK NUMERAL SIGN", 0x374), ("GREEK LOWER NUMERAL SIGN", 0x375),
    ("GREEK CAPITAL LETTER PAMPHYLIAN DIGAMMA", 0x376),
    ("GREEK SMALL LETTER PAMPHYLIAN DIGAMMA", 0x377), ("GREEK YPOGEGRAMMENI", 0x37a),
    ("GREEK SMALL REVERSED LUNATE SIGMA SYMBOL", 0x37b),
    ("GREEK SMALL DOTTED LUNATE SIGMA SYMBOL", 0x37c),
    ("GREEK SMALL REVERSED DOTTED LUNATE SIGMA SYMBOL", 0x37d), ("GREEK QUESTION MARK", 0x37e),
    ("GREEK CAPITAL LETTER YOT", 0x37f), ("GREEK TONOS", 0x384), ("GREEK DIALYTIKA TONOS", 0x385),
    ("GREEK CAPITAL LETTER ALPHA WITH TONOS", 0x386), ("GREEK ANO TELEIA", 0x387),
    ("GREEK CAPITAL LETTER EPSILON WITH TONOS", 0x388),
    ("GREEK CAPITAL LETTER ETA WITH TONOS", 0x389),
    ("GREEK CAPITAL LETTER IOTA WITH TONOS", 0x38a),
    ("GREEK CAPITAL LETTER OMICRON WITH TONOS", 0x38c),
    ("GREEK CAPITAL LETTER UPSILON WITH TONOS", 0x38e),
    ("GREEK CAPITAL LETTER OMEGA WITH TONOS", 0x38f),
    ("GREEK SMALL LETTER IOTA WITH DIALYTIKA AND TONOS", 0x390),
    ("GREEK CAPITAL LETTER ALPHA", 0x391), ("GREEK CAPITAL LETTER BETA", 0x392),
    ("GREEK CAPITAL LETTER GAMMA", 0x393), ("GREEK CAPITAL LETTER DELTA", 0x394),
    ("GREEK CAPITAL LETTER EPSILON", 0x395), ("GREEK CAPITAL LETTER ZETA", 0x396),
    ("GREEK CAPITAL LETTER ETA", 0x397), ("GREEK CAPITAL LETTER THETA", 0x398),
    ("GREEK CAPITAL LETTER IOTA", 0x399), ("GREEK CAPITAL LETTER KAPPA", 0x39a),
    ("GREEK CAPITAL LETTER LAMDA", 0x39b), ("GREEK CAPITAL LETTER MU", 0x39c),
    ("GREEK CAPITAL LETTER NU", 0x39d), ("GREEK CAPITAL LETTER XI", 0x39e),
    ("GREEK CAPITAL LETTER OMICRON", 0x39f), ("GREEK CAPITAL LETTER PI", 0x3a0),
    ("GREEK CAPITAL LETTER RHO", 0x3a1), ("GREEK CAPITAL LETTER SIGMA", 0x3a3),
    ("GREEK CAPITAL LETTER TAU", 0x3a4), ("GREEK CAPITAL LETTER UPSILON", 0x3a5),
    ("GREEK CAPITAL LETTER PHI", 0x3a6), ("GREEK CAPITAL LETTER CHI", 0x3a7),
    ("GREEK CAPITAL LETTER PSI", 0x3a8), ("GREEK CAPITAL LETTER OMEGA", 0x3a9),
    ("GREEK CAPITAL LETTER IOTA WITH DIALYTIKA", 0x3aa),
    ("GREEK CAPITAL LETTER UPSILON WITH DIALYTIKA", 0x3ab),
    ("GREEK SMALL LETTER ALPHA WITH TONOS", 0x3ac),
    ("GREEK SMALL LETTER EPSILON WITH TONOS", 0x3ad), ("GREEK SMALL LETTER ETA WITH TONOS", 0x3ae),
    ("GREEK SMALL LETTER IOTA WITH TONOS", 0x3af),
    ("GREEK SMALL LETTER UPSILON WITH DIALYTIKA AND TONOS", 0x3b0),
    ("GREEK SMALL LETTER ALPHA", 0x3b1), ("GREEK SMALL LETTER BETA", 0x3b2),
    ("GREEK SMALL LETTER GAMMA", 0x3b3), ("GREEK SMALL LETTER DELTA", 0x3b4),
    ("GREEK SMALL LETTER EPSILON", 0x3b5), ("GREEK SMALL LETTER ZETA", 0x3b6),
    ("GREEK SMALL LETTER ETA", 0x3b7), ("GREEK SMALL LETTER THETA", 0x3b8),
    ("GREEK SMALL LETTER IOTA", 0x3b9), ("GREEK SMALL LETTER KAPPA", 0x3ba),
    ("GREEK SMALL LETTER LAMDA", 0x3bb), ("GREEK SMALL LETTER MU", 0x3bc),
    ("GREEK SMALL LETTER NU", 0x3bd), ("GREEK SMALL LETTER XI", 0x3be),
    ("GREEK SMALL LETTER OMICRON", 0x3bf), ("GREEK SMALL LETTER PI", 0x3c0),
    ("GREEK SMALL LETTER RHO", 0x3c1), ("GREEK SMALL LETTER FINAL SIGMA", 0x3c2),
    ("GREEK SMALL LETTER SIGMA", 0x3c3), ("GREEK SMALL LETTER TAU", 0x3c4),
    ("GREEK SMALL LETTER UPSILON", 0x3c5), ("GREEK SMALL LETTER PHI", 0x3c6),
    ("GREEK SMALL LETTER CHI", 0x3c7), ("GREEK SMALL LETTER PSI", 0x3c8),
    ("GREEK SMALL LETTER OMEGA", 0x3c9), ("GREEK SMALL LETTER IOTA WITH DIALYTIKA", 0x3ca),
    ("GREEK SMALL LETTER UPSILON WITH DIALYTIKA", 0x3cb),
    ("GREEK SMALL LETTER OMICRON WITH TONOS", 0x3cc),
    ("GREEK SMALL LETTER UPSILON WITH TONOS", 0x3cd),
    ("GREEK SMALL LETTER OMEGA WITH TONOS", 0x3ce), ("GREEK CAPITAL KAI SYMBOL", 0x3cf),
    ("GREEK BETA SYMBOL", 0x3d0), ("GREEK THETA SYMBOL", 0x3d1),
    ("GREEK UPSILON WITH HOOK SYMBOL", 0x3d2), ("GREEK UPSILON WITH ACUTE AND HOOK SYMBOL", 0x3d3),
    ("GREEK UPSILON WITH DIAERESIS AND HOOK SYMBOL", 0x3d4), ("GREEK PHI SYMBOL", 0x3d5),
    ("GREEK PI SYMBOL", 0x3d6), ("GREEK KAI SYMBOL", 0x3d7), ("GREEK LETTER ARCHAIC KOPPA", 0x3d8),
    ("GREEK SMALL LETTER ARCHAIC KOPPA", 0x3d9), ("GREEK LETTER STIGMA", 0x3da),
    ("GREEK SMALL LETTER STIGMA", 0x3db), ("GREEK LETTER DIGAMMA", 0x3dc),
    ("GREEK SMALL LETTER DIGAMMA", 0x3dd), ("GREEK LETTER KOPPA", 0x3de),
    ("GREEK SMALL LETTER KOPPA", 0x3df), ("GREEK LETTER SAMPI", 0x3e0),
    ("GREEK SMALL LETTER SAMPI", 0x3e1), ("COPTIC CAPITAL LETTER SHEI", 0x3e2),
    ("COPTIC SMALL LETTER SHEI", 0x3e3), ("COPTIC CAPITAL LETTER FEI", 0x3e4),
    ("COPTIC SMALL LETTER FEI", 0x3e5), ("COPTIC CAPITAL LETTER KHEI", 0x3e6),
    ("COPTIC SMALL LETTER KHEI", 0x3e7), ("COPTIC CAPITAL LETTER HORI", 0x3e8),
    ("COPTIC SMALL LETTER HORI", 0x3e9), ("COPTIC CAPITAL LETTER GANGIA", 0x3ea),
    ("COPTIC SMALL LETTER GANGIA", 0x3eb), ("COPTIC CAPITAL LETTER SHIMA", 0x3ec),
    ("COPTIC SMALL LETTER SHIMA", 0x3ed), ("COPTIC CAPITAL LETTER DEI", 0x3ee),
    ("COPTIC SMALL LETTER DEI", 0x3ef), ("GREEK KAPPA SYMBOL", 0x3f0), ("GREEK RHO SYMBOL", 0x3f1),
    ("GREEK LUNATE SIGMA SYMBOL", 0x3f2), ("GREEK LETTER YOT", 0x3f3),
    ("GREEK CAPITAL THETA SYMBOL", 0x3f4), ("GREEK LUNATE EPSILON SYMBOL", 0x3f5),
    ("GREEK REVERSED LUNATE EPSILON SYMBOL", 0x3f6), ("GREEK CAPITAL LETTER SHO", 0x3f7),
    ("GREEK SMALL LETTER SHO", 0x3f8), ("GREEK CAPITAL LUNATE SIGMA SYMBOL", 0x3f9),
    ("GREEK CAPITAL LETTER SAN", 0x3fa), ("GREEK SMALL LETTER SAN", 0x3fb),
    ("GREEK RHO WITH STROKE SYMBOL", 0x3fc), ("GREEK CAPITAL REVERSED LUNATE SIGMA SYMBOL", 0x3fd),
    ("GREEK CAPITAL DOTTED LUNATE SIGMA SYMBOL", 0x3fe),
    ("GREEK CAPITAL REVERSED DOTTED LUNATE SIGMA SYMBOL", 0x3ff), ("HYPHEN", 0x2010),
    ("NON-BREAKING HYPHEN", 0x2011), ("FIGURE DASH", 0x2012), ("EN DASH", 0x2013),
    ("EM DASH", 0x2014), ("HORIZONTAL BAR", 0x2015), ("DOUBLE VERTICAL LINE", 0x2016),
    ("DOUBLE LOW LINE", 0x2017), ("LEFT SINGLE QUOTATION MARK", 0x2018),
    ("RIGHT SINGLE QUOTATION MARK", 0x2019), ("SINGLE LOW-9 QUOTATION MARK", 0x201a),
    ("SINGLE HIGH-REVERSED-9 QUOTATION MARK", 0x201b), ("LEFT DOUBLE QUOTATION MARK", 0x201c),
    ("RIGHT DOUBLE QUOTATION MARK", 0x201d), ("DOUBLE LOW-9 QUOTATION MARK", 0x201e),
    ("DOUBLE HIGH-REVERSED-9 QUOTATION MARK", 0x201f), ("DAGGER", 0x2020),
    ("DOUBLE DAGGER", 0x2021), ("BULLET", 0x2022), ("TRIANGULAR BULLET", 0x2023),
    ("ONE DOT LEADER", 0x2024), ("TWO DOT LEADER", 0x2025), ("HORIZONTAL ELLIPSIS", 0x2026),
    ("HYPHENATION POINT", 0x2027), ("PER MILLE SIGN", 0x2030), ("PER TEN THOUSAND SIGN", 0x2031),
    ("PRIME", 0x2032), ("DOUBLE PRIME", 0x2033), ("TRIPLE PRIME", 0x2034),
    ("REVERSED PRIME", 0x2035), ("REVERSED DOUBLE PRIME", 0x2036),
    ("REVERSED TRIPLE PRIME", 0x2037), ("CARET", 0x2038),
    ("SINGLE LEFT-POINTING ANGLE QUOTATION MARK", 0x2039),
    ("SINGLE RIGHT-POINTING ANGLE QUOTATION MARK", 0x203a), ("REFERENCE MARK", 0x203b),
    ("DOUBLE EXCLAMATION MARK", 0x203c), ("INTERROBANG", 0x203d), ("OVERLINE", 0x203e),
    ("UNDERTIE", 0x203f), ("CHARACTER TIE", 0x2040), ("CARET INSERTION POINT", 0x2041),
    ("ASTERISM", 0x2042), ("HYPHEN BULLET", 0x2043), ("FRACTION SLASH", 0x2044),
    ("LEFT SQUARE BRACKET WITH QUILL", 0x2045), ("RIGHT SQUARE BRACKET WITH QUILL", 0x2046),
    ("DOUBLE QUESTION MARK", 0x2047), ("QUESTION EXCLAMATION MARK", 0x2048),
    ("EXCLAMATION QUESTION MARK", 0x2049), ("TIRONIAN SIGN ET", 0x204a),
    ("REVERSED PILCROW SIGN", 0x204b), ("BLACK LEFTWARDS BULLET", 0x204c),
    ("BLACK RIGHTWARDS BULLET", 0x204d), ("LOW ASTERISK", 0x204e), ("REVERSED SEMICOLON", 0x204f),
    ("CLOSE UP", 0x2050), ("TWO ASTERISKS ALIGNED VERTICALLY", 0x2051),
    ("COMMERCIAL MINUS SIGN", 0x2052), ("SWUNG DASH", 0x2053), ("INVERTED UNDERTIE", 0x2054),
    ("FLOWER PUNCTUATION MARK", 0x2055), ("THREE DOT PUNCTUATION", 0x2056),
    ("QUADRUPLE PRIME", 0x2057), ("FOUR DOT PUNCTUATION", 0x2058),
    ("FIVE DOT PUNCTUATION", 0x2059), ("TWO DOT PUNCTUATION", 0x205a), ("FOUR DOT MARK", 0x205b),
    ("DOTTED CROSS", 0x205c), ("TRICOLON", 0x205d), ("VERTICAL FOUR DOTS", 0x205e),
    ("EURO-CURRENCY SIGN", 0x20a0), ("COLON SIGN", 0x20a1), ("CRUZEIRO SIGN", 0x20a2),
    ("FRENCH FRANC SIGN", 0x20a3), ("LIRA SIGN", 0x20a4), ("MILL SIGN", 0x20a5),
    ("NAIRA SIGN", 0x20a6), ("PESETA SIGN", 0x20a7), ("RUPEE SIGN", 0x20a8), ("WON SIGN", 0x20a9),
    ("NEW SHEQEL SIGN", 0x20aa), ("DONG SIGN", 0x20ab), ("EURO SIGN", 0x20ac),
    ("KIP SIGN", 0x20ad), ("TUGRIK SIGN", 0x20ae), ("DRACHMA SIGN", 0x20af),
    ("GERMAN PENNY SIGN", 0x20b0), ("PESO SIGN", 0x20b1), ("GUARANI SIGN", 0x20b2),
    ("AUSTRAL SIGN", 0x20b3), ("HRYVNIA SIGN", 0x20b4), ("CEDI SIGN", 0x20b5),
    ("LIVRE TOURNOIS SIGN", 0x20b6), ("SPESMILO SIGN", 0x20b7), ("TENGE SIGN", 0x20b8),
    ("INDIAN RUPEE SIGN", 0x20b9), ("TURKISH LIRA SIGN", 0x20ba), ("NORDIC MARK SIGN", 0x20bb),
    ("MANAT SIGN", 0x20bc), ("RUBLE SIGN", 0x20bd), ("LARI SIGN", 0x20be),
    ("BITCOIN SIGN", 0x20bf), ("LEFTWARDS ARROW", 0x2190), ("UPWARDS ARROW", 0x2191),
    ("RIGHTWARDS ARROW", 0x2192), ("DOWNWARDS ARROW", 0x2193), ("LEFT RIGHT ARROW", 0x2194),
    ("UP DOWN ARROW", 0x2195), ("NORTH WEST ARROW", 0x2196), ("NORTH EAST ARROW", 0x2197),
    ("SOUTH EAST ARROW", 0x2198), ("SOUTH WEST ARROW", 0x2199),
    ("LEFTWARDS ARROW WITH STROKE", 0x219a), ("RIGHTWARDS ARROW WITH STROKE", 0x219b),
    ("LEFTWARDS WAVE ARROW", 0x219c), ("RIGHTWARDS WAVE ARROW", 0x219d),
    ("LEFTWARDS TWO HEADED ARROW", 0x219e), ("UPWARDS TWO HEADED ARROW", 0x219f),
    ("RIGHTWARDS TWO HEADED ARROW", 0x21a0), ("DOWNWARDS TWO HEADED ARROW", 0x21a1),
    ("LEFTWARDS ARROW WITH TAIL", 0x21a2), ("RIGHTWARDS ARROW WITH TAIL", 0x21a3),
    ("LEFTWARDS ARROW FROM BAR", 0x21a4), ("UPWARDS ARROW FROM BAR", 0x21a5),
    ("RIGHTWARDS ARROW FROM BAR", 0x21a6), ("DOWNWARDS ARROW FROM BAR", 0x21a7),
    ("UP DOWN ARROW WITH BASE", 0x21a8), ("LEFTWARDS ARROW WITH HOOK", 0x21a9),
    ("RIGHTWARDS ARROW WITH HOOK", 0x21aa), ("LEFTWARDS ARROW WITH LOOP", 0x21ab),
    ("RIGHTWARDS ARROW WITH LOOP", 0x21ac), ("LEFT RIGHT WAVE ARROW", 0x21ad),
    ("LEFT RIGHT ARROW WITH STROKE", 0x21ae), ("DOWNWARDS ZIGZAG ARROW", 0x21af),
    ("UPWARDS ARROW WITH TIP LEFTWARDS", 0x21b0), ("UPWARDS ARROW WITH TIP RIGHTWARDS", 0x21b1),
    ("DOWNWARDS ARROW WITH TIP LEFTWARDS", 0x21b2),
    ("DOWNWARDS ARROW WITH TIP RIGHTWARDS", 0x21b3),
    ("RIGHTWARDS ARROW WITH CORNER DOWNWARDS", 0x21b4),
    ("DOWNWARDS ARROW WITH CORNER LEFTWARDS", 0x21b5),
    ("ANTICLOCKWISE TOP SEMICIRCLE ARROW", 0x21b6), ("CLOCKWISE TOP SEMICIRCLE ARROW", 0x21b7),
    ("NORTH WEST ARROW TO LONG BAR", 0x21b8),
    ("LEFTWARDS ARROW TO BAR OVER RIGHTWARDS ARROW TO BAR", 0x21b9),
    ("ANTICLOCKWISE OPEN CIRCLE ARROW", 0x21ba), ("CLOCKWISE OPEN CIRCLE ARROW", 0x21bb),
    ("LEFTWARDS HARPOON WITH BARB UPWARDS", 0x21bc),
    ("LEFTWARDS HARPOON WITH BARB DOWNWARDS", 0x21bd),
    ("UPWARDS HARPOON WITH BARB RIGHTWARDS", 0x21be),
    ("UPWARDS HARPOON WITH BARB LEFTWARDS", 0x21bf),
    ("RIGHTWARDS HARPOON WITH BARB UPWARDS", 0x21c0),
    ("RIGHTWARDS HARPOON WITH BARB DOWNWARDS", 0x21c1),
    ("DOWNWARDS HARPOON WITH BARB RIGHTWARDS", 0x21c2),
    ("DOWNWARDS HARPOON WITH BARB LEFTWARDS", 0x21c3),
    ("RIGHTWARDS ARROW OVER LEFTWARDS ARROW", 0x21c4),
    ("UPWARDS ARROW LEFTWARDS OF DOWNWARDS ARROW", 0x21c5),
    ("LEFTWARDS ARROW OVER RIGHTWARDS ARROW", 0x21c6), ("LEFTWARDS PAIRED ARROWS", 0x21c7),
    ("UPWARDS PAIRED ARROWS", 0x21c8), ("RIGHTWARDS PAIRED ARROWS", 0x21c9),
    ("DOWNWARDS PAIRED ARROWS", 0x21ca), ("LEFTWARDS HARPOON OVER RIGHTWARDS HARPOON", 0x21cb),
    ("RIGHTWARDS HARPOON OVER LEFTWARDS HARPOON", 0x21cc),
    ("LEFTWARDS DOUBLE ARROW WITH STROKE", 0x21cd),
    ("LEFT RIGHT DOUBLE ARROW WITH STROKE", 0x21ce),
    ("RIGHTWARDS DOUBLE ARROW WITH STROKE", 0x21cf), ("LEFTWARDS DOUBLE ARROW", 0x21d0),
    ("UPWARDS DOUBLE ARROW", 0x21d1), ("RIGHTWARDS DOUBLE ARROW", 0x21d2),
    ("DOWNWARDS DOUBLE ARROW", 0x21d3), ("LEFT RIGHT DOUBLE ARROW", 0x21d4),
    ("UP DOWN DOUBLE ARROW", 0x21d5), ("NORTH WEST DOUBLE ARROW", 0x21d6),
    ("NORTH EAST DOUBLE ARROW", 0x21d7), ("SOUTH EAST DOUBLE ARROW", 0x21d8),
    ("SOUTH WEST DOUBLE ARROW", 0x21d9), ("LEFTWARDS TRIPLE ARROW", 0x21da),
    ("RIGHTWARDS TRIPLE ARROW", 0x21db), ("LEFTWARDS SQUIGGLE ARROW", 0x21dc),
    ("RIGHTWARDS SQUIGGLE ARROW", 0x21dd), ("UPWARDS ARROW WITH DOUBLE STROKE", 0x21de),
    ("DOWNWARDS ARROW WITH DOUBLE STROKE", 0x21df), ("LEFTWARDS DASHED ARROW", 0x21e0),
    ("UPWARDS DASHED ARROW", 0x21e1), ("RIGHTWARDS DASHED ARROW", 0x21e2),
    ("DOWNWARDS DASHED ARROW", 0x21e3), ("LEFTWARDS ARROW TO BAR", 0x21e4),
    ("RIGHTWARDS ARROW TO BAR", 0x21e5), ("LEFTWARDS WHITE ARROW", 0x21e6),
    ("UPWARDS WHITE ARROW", 0x21e7), ("RIGHTWARDS WHITE ARROW", 0x21e8),
    ("DOWNWARDS WHITE ARROW", 0x21e9), ("UPWARDS WHITE ARROW FROM BAR", 0x21ea),
    ("UPWARDS WHITE ARROW ON PEDESTAL", 0x21eb),
    ("UPWARDS WHITE ARROW ON PEDESTAL WITH HORIZONTAL BAR", 0x21ec),
    ("UPWARDS WHITE ARROW ON PEDESTAL WITH VERTICAL BAR", 0x21ed),
    ("UPWARDS WHITE DOUBLE ARROW", 0x21ee), ("UPWARDS WHITE DOUBLE ARROW ON PEDESTAL", 0x21ef),
    ("RIGHTWARDS WHITE ARROW FROM WALL", 0x21f0), ("NORTH WEST ARROW TO CORNER", 0x21f1),
    ("SOUTH EAST ARROW TO CORNER", 0x21f2), ("UP DOWN WHITE ARROW", 0x21f3),
    ("RIGHT ARROW WITH SMALL CIRCLE", 0x21f4),
    ("DOWNWARDS ARROW LEFTWARDS OF UPWARDS ARROW", 0x21f5), ("THREE RIGHTWARDS ARROWS", 0x21f6),
    ("LEFTWARDS ARROW WITH VERTICAL STROKE", 0x21f7),
    ("RIGHTWARDS ARROW WITH VERTICAL STROKE", 0x21f8),
    ("LEFT RIGHT ARROW WITH VERTICAL STROKE", 0x21f9),
    ("LEFTWARDS ARROW WITH DOUBLE VERTICAL STROKE", 0x21fa),
    ("RIGHTWARDS ARROW WITH DOUBLE VERTICAL STROKE", 0x21fb),
    ("LEFT RIGHT ARROW WITH DOUBLE VERTICAL STROKE", 0x21fc),
    ("LEFTWARDS OPEN-HEADED ARROW", 0x21fd), ("RIGHTWARDS OPEN-HEADED ARROW", 0x21fe),
    ("LEFT RIGHT OPEN-HEADED ARROW", 0x21ff), ("BLACK SUN WITH RAYS", 0x2600), ("CLOUD", 0x2601),
    ("UMBRELLA", 0x2602), ("SNOWMAN", 0x2603), ("COMET", 0x2604), ("BLACK STAR", 0x2605),
    ("WHITE STAR", 0x2606), ("LIGHTNING", 0x2607), ("THUNDERSTORM", 0x2608), ("SUN", 0x2609),
    ("ASCENDING NODE", 0x260a), ("DESCENDING NODE", 0x260b), ("CONJUNCTION", 0x260c),
    ("OPPOSITION", 0x260d), ("BLACK TELEPHONE", 0x260e), ("WHITE TELEPHONE", 0x260f),
    ("BALLOT BOX", 0x2610), ("BALLOT BOX WITH CHECK", 0x2611), ("BALLOT BOX WITH X", 0x2612),
    ("SALTIRE", 0x2613), ("UMBRELLA WITH RAIN DROPS", 0x2614), ("HOT BEVERAGE", 0x2615),
    ("WHITE SHOGI PIECE", 0x2616), ("BLACK SHOGI PIECE", 0x2617), ("SHAMROCK", 0x2618),
    ("REVERSED ROTATED FLORAL HEART BULLET", 0x2619), ("BLACK LEFT POINTING INDEX", 0x261a),
    ("BLACK RIGHT POINTING INDEX", 0x261b), ("WHITE LEFT POINTING INDEX", 0x261c),
    ("WHITE UP POINTING INDEX", 0x261d), ("WHITE RIGHT POINTING INDEX", 0x261e),
    ("WHITE DOWN POINTING INDEX", 0x261f), ("SKULL AND CROSSBONES", 0x2620),
    ("CAUTION SIGN", 0x2621), ("RADIOACTIVE SIGN", 0x2622), ("BIOHAZARD SIGN", 0x2623),
    ("CADUCEUS", 0x2624), ("ANKH", 0x2625), ("ORTHODOX CROSS", 0x2626), ("CHI RHO", 0x2627),
    ("CROSS OF LORRAINE", 0x2628), ("CROSS OF JERUSALEM", 0x2629), ("STAR AND CRESCENT", 0x262a),
    ("FARSI SYMBOL", 0x262b), ("ADI SHAKTI", 0x262c), ("HAMMER AND SICKLE", 0x262d),
    ("PEACE SYMBOL", 0x262e), ("YIN YANG", 0x262f), ("TRIGRAM FOR HEAVEN", 0x2630),
    ("TRIGRAM FOR LAKE", 0x2631), ("TRIGRAM FOR FIRE", 0x2632), ("TRIGRAM FOR THUNDER", 0x2633),
    ("TRIGRAM FOR WIND", 0x2634), ("TRIGRAM FOR WATER", 0x2635), ("TRIGRAM FOR MOUNTAIN", 0x2636),
    ("TRIGRAM FOR EARTH", 0x2637), ("WHEEL OF DHARMA", 0x2638), ("WHITE FROWNING FACE", 0x2639),
    ("WHITE SMILING FACE", 0x263a), ("BLACK SMILING FACE", 0x263b),
    ("WHITE SUN WITH RAYS", 0x263c), ("FIRST QUARTER MOON", 0x263d), ("LAST QUARTER MOON", 0x263e),
    ("MERCURY", 0x263f), ("FEMALE SIGN", 0x2640), ("EARTH", 0x2641), ("MALE SIGN", 0x2642),
    ("JUPITER", 0x2643), ("SATURN", 0x2644), ("URANUS", 0x2645), ("NEPTUNE", 0x2646),
    ("PLUTO", 0x2647), ("ARIES", 0x2648), ("TAURUS", 0x2649), ("GEMINI", 0x264a),
    ("CANCER", 0x264b), ("LEO", 0x264c), ("VIRGO", 0x264d), ("LIBRA", 0x264e),
    ("SCORPIUS", 0x264f), ("SAGITTARIUS", 0x2650), ("CAPRICORN", 0x2651), ("AQUARIUS", 0x2652),
    ("PISCES", 0x2653), ("WHITE CHESS KING", 0x2654), ("WHITE CHESS QUEEN", 0x2655),
    ("WHITE CHESS ROOK", 0x2656), ("WHITE CHESS BISHOP", 0x2657), ("WHITE CHESS KNIGHT", 0x2658),
    ("WHITE CHESS PAWN", 0x2659), ("BLACK CHESS KING", 0x265a), ("BLACK CHESS QUEEN", 0x265b),
    ("BLACK CHESS ROOK", 0x265c), ("BLACK CHESS BISHOP", 0x265d), ("BLACK CHESS KNIGHT", 0x265e),
    ("BLACK CHESS PAWN", 0x265f), ("BLACK SPADE SUIT", 0x2660), ("WHITE HEART SUIT", 0x2661),
    ("WHITE DIAMOND SUIT", 0x2662), ("BLACK CLUB SUIT", 0x2663), ("WHITE SPADE SUIT", 0x2664),
    ("BLACK HEART SUIT", 0x2665), ("BLACK DIAMOND SUIT", 0x2666), ("WHITE CLUB SUIT", 0x2667),
    ("HOT SPRINGS", 0x2668), ("QUARTER NOTE", 0x2669), ("EIGHTH NOTE", 0x266a),
    ("BEAMED EIGHTH NOTES", 0x266b), ("BEAMED SIXTEENTH NOTES", 0x266c),
    ("MUSIC FLAT SIGN", 0x266d), ("MUSIC NATURAL SIGN", 0x266e), ("MUSIC SHARP SIGN", 0x266f),
    ("NULL", 0x0), ("TAB", 0x9), ("CHARACTER TABULATION", 0x9), ("LINE FEED", 0xa),
    ("NEW LINE", 0xa), ("LINE TABULATION", 0xb), ("FORM FEED", 0xc), ("CARRIAGE RETURN", 0xd),
    ("ESCAPE", 0x1b), ("BACKSPACE", 0x8), ("DELETE", 0x7f), ("ALERT", 0x7),
    ("ZERO WIDTH SPACE", 0x200b), ("EN QUAD", 0x2000), ("EM QUAD", 0x2001), ("EN SPACE", 0x2002),
    ("EM SPACE", 0x2003), ("THIN SPACE", 0x2009), ("HAIR SPACE", 0x200a),
    ("ZERO WIDTH NON-JOINER", 0x200c), ("ZERO WIDTH JOINER", 0x200d), ("LINE SEPARATOR", 0x2028),
    ("PARAGRAPH SEPARATOR", 0x2029), ("IDEOGRAPHIC SPACE", 0x3000),
    ("ZERO WIDTH NO-BREAK SPACE", 0xfeff), ("REPLACEMENT CHARACTER", 0xfffd),
    ("GRINNING FACE", 0x1f600), ("PILE OF POO", 0x1f4a9), ("SNAKE", 0x1f40d)]

/-- The names of common characters; case does not count. -/
def commonNames (name : String) : Option Nat :=
  let wanted := name.map Char.toUpper
  (commonNameTable.find? (·.1 == wanted)).map (·.2)

end GrammarFuzz.Text
