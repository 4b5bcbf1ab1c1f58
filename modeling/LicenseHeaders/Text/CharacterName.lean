import LicenseHeaders.Text.Separated

/-!
# Names of characters

A pattern can call a character by its name. `CharacterNames` is the look-up of these names, of which
there are more than a hundred thousand. Nothing depends on which they are, so the look-up is left
open, and `commonCode?` is one that knows the names of the common characters.
-/

set_option autoImplicit false
set_option relaxedAutoImplicit false

namespace LicenseHeaders.Text

/-- The look-up of characters by their names. -/
class CharacterNames where
  /-- The code point of the character with a name. -/
  code? : List Char → Option Nat

/-! ### Common names

A row holds characters that follow each other. The rows are those of the Latin, Greek, Cyrillic and
Hebrew letters, their accents, and the punctuation, currency signs, symbols and operators that go
with them. Control characters have no name of their own, only other names, and some named characters
have a second one. A name may be written in small letters. -/

/-- Rows of named characters: the code point of the first, and the names of all, with commas
between them. -/
def nameRows : List (Nat × String) :=
  [(0x20, "SPACE,EXCLAMATION MARK,QUOTATION MARK,NUMBER SIGN,DOLLAR SIGN,PERCENT SIGN,AMPERSAND"),
   (0x27, "APOSTROPHE,LEFT PARENTHESIS,RIGHT PARENTHESIS,ASTERISK,PLUS SIGN,COMMA,HYPHEN-MINUS"),
   (0x2E, "FULL STOP,SOLIDUS,DIGIT ZERO,DIGIT ONE,DIGIT TWO,DIGIT THREE,DIGIT FOUR,DIGIT FIVE"),
   (0x36, "DIGIT SIX,DIGIT SEVEN,DIGIT EIGHT,DIGIT NINE,COLON,SEMICOLON,LESS-THAN SIGN"),
   (0x3D, "EQUALS SIGN,GREATER-THAN SIGN,QUESTION MARK,COMMERCIAL AT,LATIN CAPITAL LETTER A"),
   (0x42, "LATIN CAPITAL LETTER B,LATIN CAPITAL LETTER C,LATIN CAPITAL LETTER D"),
   (0x45, "LATIN CAPITAL LETTER E,LATIN CAPITAL LETTER F,LATIN CAPITAL LETTER G"),
   (0x48, "LATIN CAPITAL LETTER H,LATIN CAPITAL LETTER I,LATIN CAPITAL LETTER J"),
   (0x4B, "LATIN CAPITAL LETTER K,LATIN CAPITAL LETTER L,LATIN CAPITAL LETTER M"),
   (0x4E, "LATIN CAPITAL LETTER N,LATIN CAPITAL LETTER O,LATIN CAPITAL LETTER P"),
   (0x51, "LATIN CAPITAL LETTER Q,LATIN CAPITAL LETTER R,LATIN CAPITAL LETTER S"),
   (0x54, "LATIN CAPITAL LETTER T,LATIN CAPITAL LETTER U,LATIN CAPITAL LETTER V"),
   (0x57, "LATIN CAPITAL LETTER W,LATIN CAPITAL LETTER X,LATIN CAPITAL LETTER Y"),
   (0x5A, "LATIN CAPITAL LETTER Z,LEFT SQUARE BRACKET,REVERSE SOLIDUS,RIGHT SQUARE BRACKET"),
   (0x5E, "CIRCUMFLEX ACCENT,LOW LINE,GRAVE ACCENT,LATIN SMALL LETTER A,LATIN SMALL LETTER B"),
   (0x63, "LATIN SMALL LETTER C,LATIN SMALL LETTER D,LATIN SMALL LETTER E,LATIN SMALL LETTER F"),
   (0x67, "LATIN SMALL LETTER G,LATIN SMALL LETTER H,LATIN SMALL LETTER I,LATIN SMALL LETTER J"),
   (0x6B, "LATIN SMALL LETTER K,LATIN SMALL LETTER L,LATIN SMALL LETTER M,LATIN SMALL LETTER N"),
   (0x6F, "LATIN SMALL LETTER O,LATIN SMALL LETTER P,LATIN SMALL LETTER Q,LATIN SMALL LETTER R"),
   (0x73, "LATIN SMALL LETTER S,LATIN SMALL LETTER T,LATIN SMALL LETTER U,LATIN SMALL LETTER V"),
   (0x77, "LATIN SMALL LETTER W,LATIN SMALL LETTER X,LATIN SMALL LETTER Y,LATIN SMALL LETTER Z"),
   (0x7B, "LEFT CURLY BRACKET,VERTICAL LINE,RIGHT CURLY BRACKET,TILDE"),
   (0xA0, "NO-BREAK SPACE,INVERTED EXCLAMATION MARK,CENT SIGN,POUND SIGN,CURRENCY SIGN,YEN SIGN"),
   (0xA6, "BROKEN BAR,SECTION SIGN,DIAERESIS,COPYRIGHT SIGN,FEMININE ORDINAL INDICATOR"),
   (0xAB, "LEFT-POINTING DOUBLE ANGLE QUOTATION MARK,NOT SIGN,SOFT HYPHEN,REGISTERED SIGN,MACRON"),
   (0xB0, "DEGREE SIGN,PLUS-MINUS SIGN,SUPERSCRIPT TWO,SUPERSCRIPT THREE,ACUTE ACCENT,MICRO SIGN"),
   (0xB6, "PILCROW SIGN,MIDDLE DOT,CEDILLA,SUPERSCRIPT ONE,MASCULINE ORDINAL INDICATOR"),
   (0xBB, "RIGHT-POINTING DOUBLE ANGLE QUOTATION MARK,VULGAR FRACTION ONE QUARTER"),
   (0xBD, "VULGAR FRACTION ONE HALF,VULGAR FRACTION THREE QUARTERS,INVERTED QUESTION MARK"),
   (0xC0, "LATIN CAPITAL LETTER A WITH GRAVE,LATIN CAPITAL LETTER A WITH ACUTE"),
   (0xC2, "LATIN CAPITAL LETTER A WITH CIRCUMFLEX,LATIN CAPITAL LETTER A WITH TILDE"),
   (0xC4, "LATIN CAPITAL LETTER A WITH DIAERESIS,LATIN CAPITAL LETTER A WITH RING ABOVE"),
   (0xC6, "LATIN CAPITAL LETTER AE,LATIN CAPITAL LETTER C WITH CEDILLA"),
   (0xC8, "LATIN CAPITAL LETTER E WITH GRAVE,LATIN CAPITAL LETTER E WITH ACUTE"),
   (0xCA, "LATIN CAPITAL LETTER E WITH CIRCUMFLEX,LATIN CAPITAL LETTER E WITH DIAERESIS"),
   (0xCC, "LATIN CAPITAL LETTER I WITH GRAVE,LATIN CAPITAL LETTER I WITH ACUTE"),
   (0xCE, "LATIN CAPITAL LETTER I WITH CIRCUMFLEX,LATIN CAPITAL LETTER I WITH DIAERESIS"),
   (0xD0, "LATIN CAPITAL LETTER ETH,LATIN CAPITAL LETTER N WITH TILDE"),
   (0xD2, "LATIN CAPITAL LETTER O WITH GRAVE,LATIN CAPITAL LETTER O WITH ACUTE"),
   (0xD4, "LATIN CAPITAL LETTER O WITH CIRCUMFLEX,LATIN CAPITAL LETTER O WITH TILDE"),
   (0xD6, "LATIN CAPITAL LETTER O WITH DIAERESIS,MULTIPLICATION SIGN"),
   (0xD8, "LATIN CAPITAL LETTER O WITH STROKE,LATIN CAPITAL LETTER U WITH GRAVE"),
   (0xDA, "LATIN CAPITAL LETTER U WITH ACUTE,LATIN CAPITAL LETTER U WITH CIRCUMFLEX"),
   (0xDC, "LATIN CAPITAL LETTER U WITH DIAERESIS,LATIN CAPITAL LETTER Y WITH ACUTE"),
   (0xDE, "LATIN CAPITAL LETTER THORN,LATIN SMALL LETTER SHARP S,LATIN SMALL LETTER A WITH GRAVE"),
   (0xE1, "LATIN SMALL LETTER A WITH ACUTE,LATIN SMALL LETTER A WITH CIRCUMFLEX"),
   (0xE3, "LATIN SMALL LETTER A WITH TILDE,LATIN SMALL LETTER A WITH DIAERESIS"),
   (0xE5, "LATIN SMALL LETTER A WITH RING ABOVE,LATIN SMALL LETTER AE"),
   (0xE7, "LATIN SMALL LETTER C WITH CEDILLA,LATIN SMALL LETTER E WITH GRAVE"),
   (0xE9, "LATIN SMALL LETTER E WITH ACUTE,LATIN SMALL LETTER E WITH CIRCUMFLEX"),
   (0xEB, "LATIN SMALL LETTER E WITH DIAERESIS,LATIN SMALL LETTER I WITH GRAVE"),
   (0xED, "LATIN SMALL LETTER I WITH ACUTE,LATIN SMALL LETTER I WITH CIRCUMFLEX"),
   (0xEF, "LATIN SMALL LETTER I WITH DIAERESIS,LATIN SMALL LETTER ETH"),
   (0xF1, "LATIN SMALL LETTER N WITH TILDE,LATIN SMALL LETTER O WITH GRAVE"),
   (0xF3, "LATIN SMALL LETTER O WITH ACUTE,LATIN SMALL LETTER O WITH CIRCUMFLEX"),
   (0xF5, "LATIN SMALL LETTER O WITH TILDE,LATIN SMALL LETTER O WITH DIAERESIS,DIVISION SIGN"),
   (0xF8, "LATIN SMALL LETTER O WITH STROKE,LATIN SMALL LETTER U WITH GRAVE"),
   (0xFA, "LATIN SMALL LETTER U WITH ACUTE,LATIN SMALL LETTER U WITH CIRCUMFLEX"),
   (0xFC, "LATIN SMALL LETTER U WITH DIAERESIS,LATIN SMALL LETTER Y WITH ACUTE"),
   (0xFE, "LATIN SMALL LETTER THORN,LATIN SMALL LETTER Y WITH DIAERESIS"),
   (0x100, "LATIN CAPITAL LETTER A WITH MACRON,LATIN SMALL LETTER A WITH MACRON"),
   (0x102, "LATIN CAPITAL LETTER A WITH BREVE,LATIN SMALL LETTER A WITH BREVE"),
   (0x104, "LATIN CAPITAL LETTER A WITH OGONEK,LATIN SMALL LETTER A WITH OGONEK"),
   (0x106, "LATIN CAPITAL LETTER C WITH ACUTE,LATIN SMALL LETTER C WITH ACUTE"),
   (0x108, "LATIN CAPITAL LETTER C WITH CIRCUMFLEX,LATIN SMALL LETTER C WITH CIRCUMFLEX"),
   (0x10A, "LATIN CAPITAL LETTER C WITH DOT ABOVE,LATIN SMALL LETTER C WITH DOT ABOVE"),
   (0x10C, "LATIN CAPITAL LETTER C WITH CARON,LATIN SMALL LETTER C WITH CARON"),
   (0x10E, "LATIN CAPITAL LETTER D WITH CARON,LATIN SMALL LETTER D WITH CARON"),
   (0x110, "LATIN CAPITAL LETTER D WITH STROKE,LATIN SMALL LETTER D WITH STROKE"),
   (0x112, "LATIN CAPITAL LETTER E WITH MACRON,LATIN SMALL LETTER E WITH MACRON"),
   (0x114, "LATIN CAPITAL LETTER E WITH BREVE,LATIN SMALL LETTER E WITH BREVE"),
   (0x116, "LATIN CAPITAL LETTER E WITH DOT ABOVE,LATIN SMALL LETTER E WITH DOT ABOVE"),
   (0x118, "LATIN CAPITAL LETTER E WITH OGONEK,LATIN SMALL LETTER E WITH OGONEK"),
   (0x11A, "LATIN CAPITAL LETTER E WITH CARON,LATIN SMALL LETTER E WITH CARON"),
   (0x11C, "LATIN CAPITAL LETTER G WITH CIRCUMFLEX,LATIN SMALL LETTER G WITH CIRCUMFLEX"),
   (0x11E, "LATIN CAPITAL LETTER G WITH BREVE,LATIN SMALL LETTER G WITH BREVE"),
   (0x120, "LATIN CAPITAL LETTER G WITH DOT ABOVE,LATIN SMALL LETTER G WITH DOT ABOVE"),
   (0x122, "LATIN CAPITAL LETTER G WITH CEDILLA,LATIN SMALL LETTER G WITH CEDILLA"),
   (0x124, "LATIN CAPITAL LETTER H WITH CIRCUMFLEX,LATIN SMALL LETTER H WITH CIRCUMFLEX"),
   (0x126, "LATIN CAPITAL LETTER H WITH STROKE,LATIN SMALL LETTER H WITH STROKE"),
   (0x128, "LATIN CAPITAL LETTER I WITH TILDE,LATIN SMALL LETTER I WITH TILDE"),
   (0x12A, "LATIN CAPITAL LETTER I WITH MACRON,LATIN SMALL LETTER I WITH MACRON"),
   (0x12C, "LATIN CAPITAL LETTER I WITH BREVE,LATIN SMALL LETTER I WITH BREVE"),
   (0x12E, "LATIN CAPITAL LETTER I WITH OGONEK,LATIN SMALL LETTER I WITH OGONEK"),
   (0x130, "LATIN CAPITAL LETTER I WITH DOT ABOVE,LATIN SMALL LETTER DOTLESS I"),
   (0x132, "LATIN CAPITAL LIGATURE IJ,LATIN SMALL LIGATURE IJ"),
   (0x134, "LATIN CAPITAL LETTER J WITH CIRCUMFLEX,LATIN SMALL LETTER J WITH CIRCUMFLEX"),
   (0x136, "LATIN CAPITAL LETTER K WITH CEDILLA,LATIN SMALL LETTER K WITH CEDILLA"),
   (0x138, "LATIN SMALL LETTER KRA,LATIN CAPITAL LETTER L WITH ACUTE"),
   (0x13A, "LATIN SMALL LETTER L WITH ACUTE,LATIN CAPITAL LETTER L WITH CEDILLA"),
   (0x13C, "LATIN SMALL LETTER L WITH CEDILLA,LATIN CAPITAL LETTER L WITH CARON"),
   (0x13E, "LATIN SMALL LETTER L WITH CARON,LATIN CAPITAL LETTER L WITH MIDDLE DOT"),
   (0x140, "LATIN SMALL LETTER L WITH MIDDLE DOT,LATIN CAPITAL LETTER L WITH STROKE"),
   (0x142, "LATIN SMALL LETTER L WITH STROKE,LATIN CAPITAL LETTER N WITH ACUTE"),
   (0x144, "LATIN SMALL LETTER N WITH ACUTE,LATIN CAPITAL LETTER N WITH CEDILLA"),
   (0x146, "LATIN SMALL LETTER N WITH CEDILLA,LATIN CAPITAL LETTER N WITH CARON"),
   (0x148, "LATIN SMALL LETTER N WITH CARON,LATIN SMALL LETTER N PRECEDED BY APOSTROPHE"),
   (0x14A, "LATIN CAPITAL LETTER ENG,LATIN SMALL LETTER ENG,LATIN CAPITAL LETTER O WITH MACRON"),
   (0x14D, "LATIN SMALL LETTER O WITH MACRON,LATIN CAPITAL LETTER O WITH BREVE"),
   (0x14F, "LATIN SMALL LETTER O WITH BREVE,LATIN CAPITAL LETTER O WITH DOUBLE ACUTE"),
   (0x151, "LATIN SMALL LETTER O WITH DOUBLE ACUTE,LATIN CAPITAL LIGATURE OE"),
   (0x153, "LATIN SMALL LIGATURE OE,LATIN CAPITAL LETTER R WITH ACUTE"),
   (0x155, "LATIN SMALL LETTER R WITH ACUTE,LATIN CAPITAL LETTER R WITH CEDILLA"),
   (0x157, "LATIN SMALL LETTER R WITH CEDILLA,LATIN CAPITAL LETTER R WITH CARON"),
   (0x159, "LATIN SMALL LETTER R WITH CARON,LATIN CAPITAL LETTER S WITH ACUTE"),
   (0x15B, "LATIN SMALL LETTER S WITH ACUTE,LATIN CAPITAL LETTER S WITH CIRCUMFLEX"),
   (0x15D, "LATIN SMALL LETTER S WITH CIRCUMFLEX,LATIN CAPITAL LETTER S WITH CEDILLA"),
   (0x15F, "LATIN SMALL LETTER S WITH CEDILLA,LATIN CAPITAL LETTER S WITH CARON"),
   (0x161, "LATIN SMALL LETTER S WITH CARON,LATIN CAPITAL LETTER T WITH CEDILLA"),
   (0x163, "LATIN SMALL LETTER T WITH CEDILLA,LATIN CAPITAL LETTER T WITH CARON"),
   (0x165, "LATIN SMALL LETTER T WITH CARON,LATIN CAPITAL LETTER T WITH STROKE"),
   (0x167, "LATIN SMALL LETTER T WITH STROKE,LATIN CAPITAL LETTER U WITH TILDE"),
   (0x169, "LATIN SMALL LETTER U WITH TILDE,LATIN CAPITAL LETTER U WITH MACRON"),
   (0x16B, "LATIN SMALL LETTER U WITH MACRON,LATIN CAPITAL LETTER U WITH BREVE"),
   (0x16D, "LATIN SMALL LETTER U WITH BREVE,LATIN CAPITAL LETTER U WITH RING ABOVE"),
   (0x16F, "LATIN SMALL LETTER U WITH RING ABOVE,LATIN CAPITAL LETTER U WITH DOUBLE ACUTE"),
   (0x171, "LATIN SMALL LETTER U WITH DOUBLE ACUTE,LATIN CAPITAL LETTER U WITH OGONEK"),
   (0x173, "LATIN SMALL LETTER U WITH OGONEK,LATIN CAPITAL LETTER W WITH CIRCUMFLEX"),
   (0x175, "LATIN SMALL LETTER W WITH CIRCUMFLEX,LATIN CAPITAL LETTER Y WITH CIRCUMFLEX"),
   (0x177, "LATIN SMALL LETTER Y WITH CIRCUMFLEX,LATIN CAPITAL LETTER Y WITH DIAERESIS"),
   (0x179, "LATIN CAPITAL LETTER Z WITH ACUTE,LATIN SMALL LETTER Z WITH ACUTE"),
   (0x17B, "LATIN CAPITAL LETTER Z WITH DOT ABOVE,LATIN SMALL LETTER Z WITH DOT ABOVE"),
   (0x17D, "LATIN CAPITAL LETTER Z WITH CARON,LATIN SMALL LETTER Z WITH CARON"),
   (0x17F, "LATIN SMALL LETTER LONG S"),
   (0x2B0, "MODIFIER LETTER SMALL H,MODIFIER LETTER SMALL H WITH HOOK,MODIFIER LETTER SMALL J"),
   (0x2B3, "MODIFIER LETTER SMALL R,MODIFIER LETTER SMALL TURNED R"),
   (0x2B5, "MODIFIER LETTER SMALL TURNED R WITH HOOK,MODIFIER LETTER SMALL CAPITAL INVERTED R"),
   (0x2B7, "MODIFIER LETTER SMALL W,MODIFIER LETTER SMALL Y,MODIFIER LETTER PRIME"),
   (0x2BA, "MODIFIER LETTER DOUBLE PRIME,MODIFIER LETTER TURNED COMMA,MODIFIER LETTER APOSTROPHE"),
   (0x2BD, "MODIFIER LETTER REVERSED COMMA,MODIFIER LETTER RIGHT HALF RING"),
   (0x2BF, "MODIFIER LETTER LEFT HALF RING,MODIFIER LETTER GLOTTAL STOP"),
   (0x2C1, "MODIFIER LETTER REVERSED GLOTTAL STOP,MODIFIER LETTER LEFT ARROWHEAD"),
   (0x2C3, "MODIFIER LETTER RIGHT ARROWHEAD,MODIFIER LETTER UP ARROWHEAD"),
   (0x2C5, "MODIFIER LETTER DOWN ARROWHEAD,MODIFIER LETTER CIRCUMFLEX ACCENT,CARON"),
   (0x2C8, "MODIFIER LETTER VERTICAL LINE,MODIFIER LETTER MACRON,MODIFIER LETTER ACUTE ACCENT"),
   (0x2CB, "MODIFIER LETTER GRAVE ACCENT,MODIFIER LETTER LOW VERTICAL LINE"),
   (0x2CD, "MODIFIER LETTER LOW MACRON,MODIFIER LETTER LOW GRAVE ACCENT"),
   (0x2CF, "MODIFIER LETTER LOW ACUTE ACCENT,MODIFIER LETTER TRIANGULAR COLON"),
   (0x2D1, "MODIFIER LETTER HALF TRIANGULAR COLON,MODIFIER LETTER CENTRED RIGHT HALF RING"),
   (0x2D3, "MODIFIER LETTER CENTRED LEFT HALF RING,MODIFIER LETTER UP TACK"),
   (0x2D5, "MODIFIER LETTER DOWN TACK,MODIFIER LETTER PLUS SIGN,MODIFIER LETTER MINUS SIGN,BREVE"),
   (0x2D9, "DOT ABOVE,RING ABOVE,OGONEK,SMALL TILDE,DOUBLE ACUTE ACCENT"),
   (0x300, "COMBINING GRAVE ACCENT,COMBINING ACUTE ACCENT,COMBINING CIRCUMFLEX ACCENT"),
   (0x303, "COMBINING TILDE,COMBINING MACRON,COMBINING OVERLINE,COMBINING BREVE"),
   (0x307, "COMBINING DOT ABOVE,COMBINING DIAERESIS,COMBINING HOOK ABOVE,COMBINING RING ABOVE"),
   (0x30B, "COMBINING DOUBLE ACUTE ACCENT,COMBINING CARON,COMBINING VERTICAL LINE ABOVE"),
   (0x30E, "COMBINING DOUBLE VERTICAL LINE ABOVE,COMBINING DOUBLE GRAVE ACCENT"),
   (0x310, "COMBINING CANDRABINDU,COMBINING INVERTED BREVE,COMBINING TURNED COMMA ABOVE"),
   (0x313, "COMBINING COMMA ABOVE,COMBINING REVERSED COMMA ABOVE,COMBINING COMMA ABOVE RIGHT"),
   (0x316, "COMBINING GRAVE ACCENT BELOW,COMBINING ACUTE ACCENT BELOW,COMBINING LEFT TACK BELOW"),
   (0x319, "COMBINING RIGHT TACK BELOW,COMBINING LEFT ANGLE ABOVE,COMBINING HORN"),
   (0x31C, "COMBINING LEFT HALF RING BELOW,COMBINING UP TACK BELOW,COMBINING DOWN TACK BELOW"),
   (0x31F, "COMBINING PLUS SIGN BELOW,COMBINING MINUS SIGN BELOW"),
   (0x321, "COMBINING PALATALIZED HOOK BELOW,COMBINING RETROFLEX HOOK BELOW,COMBINING DOT BELOW"),
   (0x324, "COMBINING DIAERESIS BELOW,COMBINING RING BELOW,COMBINING COMMA BELOW"),
   (0x327, "COMBINING CEDILLA,COMBINING OGONEK,COMBINING VERTICAL LINE BELOW"),
   (0x32A, "COMBINING BRIDGE BELOW,COMBINING INVERTED DOUBLE ARCH BELOW,COMBINING CARON BELOW"),
   (0x32D, "COMBINING CIRCUMFLEX ACCENT BELOW,COMBINING BREVE BELOW"),
   (0x32F, "COMBINING INVERTED BREVE BELOW"),
   (0x370, "GREEK CAPITAL LETTER HETA,GREEK SMALL LETTER HETA,GREEK CAPITAL LETTER ARCHAIC SAMPI"),
   (0x373, "GREEK SMALL LETTER ARCHAIC SAMPI,GREEK NUMERAL SIGN,GREEK LOWER NUMERAL SIGN"),
   (0x376, "GREEK CAPITAL LETTER PAMPHYLIAN DIGAMMA,GREEK SMALL LETTER PAMPHYLIAN DIGAMMA"),
   (0x37A, "GREEK YPOGEGRAMMENI,GREEK SMALL REVERSED LUNATE SIGMA SYMBOL"),
   (0x37C, "GREEK SMALL DOTTED LUNATE SIGMA SYMBOL"),
   (0x37D, "GREEK SMALL REVERSED DOTTED LUNATE SIGMA SYMBOL,GREEK QUESTION MARK"),
   (0x37F, "GREEK CAPITAL LETTER YOT"),
   (0x384, "GREEK TONOS,GREEK DIALYTIKA TONOS,GREEK CAPITAL LETTER ALPHA WITH TONOS"),
   (0x387, "GREEK ANO TELEIA,GREEK CAPITAL LETTER EPSILON WITH TONOS"),
   (0x389, "GREEK CAPITAL LETTER ETA WITH TONOS,GREEK CAPITAL LETTER IOTA WITH TONOS"),
   (0x38C, "GREEK CAPITAL LETTER OMICRON WITH TONOS"),
   (0x38E, "GREEK CAPITAL LETTER UPSILON WITH TONOS,GREEK CAPITAL LETTER OMEGA WITH TONOS"),
   (0x390, "GREEK SMALL LETTER IOTA WITH DIALYTIKA AND TONOS,GREEK CAPITAL LETTER ALPHA"),
   (0x392, "GREEK CAPITAL LETTER BETA,GREEK CAPITAL LETTER GAMMA,GREEK CAPITAL LETTER DELTA"),
   (0x395, "GREEK CAPITAL LETTER EPSILON,GREEK CAPITAL LETTER ZETA,GREEK CAPITAL LETTER ETA"),
   (0x398, "GREEK CAPITAL LETTER THETA,GREEK CAPITAL LETTER IOTA,GREEK CAPITAL LETTER KAPPA"),
   (0x39B, "GREEK CAPITAL LETTER LAMDA,GREEK CAPITAL LETTER MU,GREEK CAPITAL LETTER NU"),
   (0x39E, "GREEK CAPITAL LETTER XI,GREEK CAPITAL LETTER OMICRON,GREEK CAPITAL LETTER PI"),
   (0x3A1, "GREEK CAPITAL LETTER RHO"),
   (0x3A3, "GREEK CAPITAL LETTER SIGMA,GREEK CAPITAL LETTER TAU,GREEK CAPITAL LETTER UPSILON"),
   (0x3A6, "GREEK CAPITAL LETTER PHI,GREEK CAPITAL LETTER CHI,GREEK CAPITAL LETTER PSI"),
   (0x3A9, "GREEK CAPITAL LETTER OMEGA,GREEK CAPITAL LETTER IOTA WITH DIALYTIKA"),
   (0x3AB, "GREEK CAPITAL LETTER UPSILON WITH DIALYTIKA,GREEK SMALL LETTER ALPHA WITH TONOS"),
   (0x3AD, "GREEK SMALL LETTER EPSILON WITH TONOS,GREEK SMALL LETTER ETA WITH TONOS"),
   (0x3AF, "GREEK SMALL LETTER IOTA WITH TONOS"),
   (0x3B0, "GREEK SMALL LETTER UPSILON WITH DIALYTIKA AND TONOS,GREEK SMALL LETTER ALPHA"),
   (0x3B2, "GREEK SMALL LETTER BETA,GREEK SMALL LETTER GAMMA,GREEK SMALL LETTER DELTA"),
   (0x3B5, "GREEK SMALL LETTER EPSILON,GREEK SMALL LETTER ZETA,GREEK SMALL LETTER ETA"),
   (0x3B8, "GREEK SMALL LETTER THETA,GREEK SMALL LETTER IOTA,GREEK SMALL LETTER KAPPA"),
   (0x3BB, "GREEK SMALL LETTER LAMDA,GREEK SMALL LETTER MU,GREEK SMALL LETTER NU"),
   (0x3BE, "GREEK SMALL LETTER XI,GREEK SMALL LETTER OMICRON,GREEK SMALL LETTER PI"),
   (0x3C1, "GREEK SMALL LETTER RHO,GREEK SMALL LETTER FINAL SIGMA,GREEK SMALL LETTER SIGMA"),
   (0x3C4, "GREEK SMALL LETTER TAU,GREEK SMALL LETTER UPSILON,GREEK SMALL LETTER PHI"),
   (0x3C7, "GREEK SMALL LETTER CHI,GREEK SMALL LETTER PSI,GREEK SMALL LETTER OMEGA"),
   (0x3CA, "GREEK SMALL LETTER IOTA WITH DIALYTIKA,GREEK SMALL LETTER UPSILON WITH DIALYTIKA"),
   (0x3CC, "GREEK SMALL LETTER OMICRON WITH TONOS,GREEK SMALL LETTER UPSILON WITH TONOS"),
   (0x3CE, "GREEK SMALL LETTER OMEGA WITH TONOS,GREEK CAPITAL KAI SYMBOL,GREEK BETA SYMBOL"),
   (0x3D1, "GREEK THETA SYMBOL,GREEK UPSILON WITH HOOK SYMBOL"),
   (0x3D3, "GREEK UPSILON WITH ACUTE AND HOOK SYMBOL"),
   (0x3D4, "GREEK UPSILON WITH DIAERESIS AND HOOK SYMBOL,GREEK PHI SYMBOL,GREEK PI SYMBOL"),
   (0x3D7, "GREEK KAI SYMBOL,GREEK LETTER ARCHAIC KOPPA,GREEK SMALL LETTER ARCHAIC KOPPA"),
   (0x3DA, "GREEK LETTER STIGMA,GREEK SMALL LETTER STIGMA,GREEK LETTER DIGAMMA"),
   (0x3DD, "GREEK SMALL LETTER DIGAMMA,GREEK LETTER KOPPA,GREEK SMALL LETTER KOPPA"),
   (0x3E0, "GREEK LETTER SAMPI,GREEK SMALL LETTER SAMPI,COPTIC CAPITAL LETTER SHEI"),
   (0x3E3, "COPTIC SMALL LETTER SHEI,COPTIC CAPITAL LETTER FEI,COPTIC SMALL LETTER FEI"),
   (0x3E6, "COPTIC CAPITAL LETTER KHEI,COPTIC SMALL LETTER KHEI,COPTIC CAPITAL LETTER HORI"),
   (0x3E9, "COPTIC SMALL LETTER HORI,COPTIC CAPITAL LETTER GANGIA,COPTIC SMALL LETTER GANGIA"),
   (0x3EC, "COPTIC CAPITAL LETTER SHIMA,COPTIC SMALL LETTER SHIMA,COPTIC CAPITAL LETTER DEI"),
   (0x3EF, "COPTIC SMALL LETTER DEI,GREEK KAPPA SYMBOL,GREEK RHO SYMBOL"),
   (0x3F2, "GREEK LUNATE SIGMA SYMBOL,GREEK LETTER YOT,GREEK CAPITAL THETA SYMBOL"),
   (0x3F5, "GREEK LUNATE EPSILON SYMBOL,GREEK REVERSED LUNATE EPSILON SYMBOL"),
   (0x3F7, "GREEK CAPITAL LETTER SHO,GREEK SMALL LETTER SHO,GREEK CAPITAL LUNATE SIGMA SYMBOL"),
   (0x3FA, "GREEK CAPITAL LETTER SAN,GREEK SMALL LETTER SAN,GREEK RHO WITH STROKE SYMBOL"),
   (0x3FD, "GREEK CAPITAL REVERSED LUNATE SIGMA SYMBOL,GREEK CAPITAL DOTTED LUNATE SIGMA SYMBOL"),
   (0x3FF, "GREEK CAPITAL REVERSED DOTTED LUNATE SIGMA SYMBOL"),
   (0x400, "CYRILLIC CAPITAL LETTER IE WITH GRAVE,CYRILLIC CAPITAL LETTER IO"),
   (0x402, "CYRILLIC CAPITAL LETTER DJE,CYRILLIC CAPITAL LETTER GJE"),
   (0x404, "CYRILLIC CAPITAL LETTER UKRAINIAN IE,CYRILLIC CAPITAL LETTER DZE"),
   (0x406, "CYRILLIC CAPITAL LETTER BYELORUSSIAN-UKRAINIAN I,CYRILLIC CAPITAL LETTER YI"),
   (0x408, "CYRILLIC CAPITAL LETTER JE,CYRILLIC CAPITAL LETTER LJE,CYRILLIC CAPITAL LETTER NJE"),
   (0x40B, "CYRILLIC CAPITAL LETTER TSHE,CYRILLIC CAPITAL LETTER KJE"),
   (0x40D, "CYRILLIC CAPITAL LETTER I WITH GRAVE,CYRILLIC CAPITAL LETTER SHORT U"),
   (0x40F, "CYRILLIC CAPITAL LETTER DZHE,CYRILLIC CAPITAL LETTER A,CYRILLIC CAPITAL LETTER BE"),
   (0x412, "CYRILLIC CAPITAL LETTER VE,CYRILLIC CAPITAL LETTER GHE,CYRILLIC CAPITAL LETTER DE"),
   (0x415, "CYRILLIC CAPITAL LETTER IE,CYRILLIC CAPITAL LETTER ZHE,CYRILLIC CAPITAL LETTER ZE"),
   (0x418, "CYRILLIC CAPITAL LETTER I,CYRILLIC CAPITAL LETTER SHORT I,CYRILLIC CAPITAL LETTER KA"),
   (0x41B, "CYRILLIC CAPITAL LETTER EL,CYRILLIC CAPITAL LETTER EM,CYRILLIC CAPITAL LETTER EN"),
   (0x41E, "CYRILLIC CAPITAL LETTER O,CYRILLIC CAPITAL LETTER PE,CYRILLIC CAPITAL LETTER ER"),
   (0x421, "CYRILLIC CAPITAL LETTER ES,CYRILLIC CAPITAL LETTER TE,CYRILLIC CAPITAL LETTER U"),
   (0x424, "CYRILLIC CAPITAL LETTER EF,CYRILLIC CAPITAL LETTER HA,CYRILLIC CAPITAL LETTER TSE"),
   (0x427, "CYRILLIC CAPITAL LETTER CHE,CYRILLIC CAPITAL LETTER SHA"),
   (0x429, "CYRILLIC CAPITAL LETTER SHCHA,CYRILLIC CAPITAL LETTER HARD SIGN"),
   (0x42B, "CYRILLIC CAPITAL LETTER YERU,CYRILLIC CAPITAL LETTER SOFT SIGN"),
   (0x42D, "CYRILLIC CAPITAL LETTER E,CYRILLIC CAPITAL LETTER YU,CYRILLIC CAPITAL LETTER YA"),
   (0x430, "CYRILLIC SMALL LETTER A,CYRILLIC SMALL LETTER BE,CYRILLIC SMALL LETTER VE"),
   (0x433, "CYRILLIC SMALL LETTER GHE,CYRILLIC SMALL LETTER DE,CYRILLIC SMALL LETTER IE"),
   (0x436, "CYRILLIC SMALL LETTER ZHE,CYRILLIC SMALL LETTER ZE,CYRILLIC SMALL LETTER I"),
   (0x439, "CYRILLIC SMALL LETTER SHORT I,CYRILLIC SMALL LETTER KA,CYRILLIC SMALL LETTER EL"),
   (0x43C, "CYRILLIC SMALL LETTER EM,CYRILLIC SMALL LETTER EN,CYRILLIC SMALL LETTER O"),
   (0x43F, "CYRILLIC SMALL LETTER PE,CYRILLIC SMALL LETTER ER,CYRILLIC SMALL LETTER ES"),
   (0x442, "CYRILLIC SMALL LETTER TE,CYRILLIC SMALL LETTER U,CYRILLIC SMALL LETTER EF"),
   (0x445, "CYRILLIC SMALL LETTER HA,CYRILLIC SMALL LETTER TSE,CYRILLIC SMALL LETTER CHE"),
   (0x448, "CYRILLIC SMALL LETTER SHA,CYRILLIC SMALL LETTER SHCHA"),
   (0x44A, "CYRILLIC SMALL LETTER HARD SIGN,CYRILLIC SMALL LETTER YERU"),
   (0x44C, "CYRILLIC SMALL LETTER SOFT SIGN,CYRILLIC SMALL LETTER E,CYRILLIC SMALL LETTER YU"),
   (0x44F, "CYRILLIC SMALL LETTER YA,CYRILLIC SMALL LETTER IE WITH GRAVE"),
   (0x451, "CYRILLIC SMALL LETTER IO,CYRILLIC SMALL LETTER DJE,CYRILLIC SMALL LETTER GJE"),
   (0x454, "CYRILLIC SMALL LETTER UKRAINIAN IE,CYRILLIC SMALL LETTER DZE"),
   (0x456, "CYRILLIC SMALL LETTER BYELORUSSIAN-UKRAINIAN I,CYRILLIC SMALL LETTER YI"),
   (0x458, "CYRILLIC SMALL LETTER JE,CYRILLIC SMALL LETTER LJE,CYRILLIC SMALL LETTER NJE"),
   (0x45B, "CYRILLIC SMALL LETTER TSHE,CYRILLIC SMALL LETTER KJE"),
   (0x45D, "CYRILLIC SMALL LETTER I WITH GRAVE,CYRILLIC SMALL LETTER SHORT U"),
   (0x45F, "CYRILLIC SMALL LETTER DZHE"),
   (0x5D0, "HEBREW LETTER ALEF,HEBREW LETTER BET,HEBREW LETTER GIMEL,HEBREW LETTER DALET"),
   (0x5D4, "HEBREW LETTER HE,HEBREW LETTER VAV,HEBREW LETTER ZAYIN,HEBREW LETTER HET"),
   (0x5D8, "HEBREW LETTER TET,HEBREW LETTER YOD,HEBREW LETTER FINAL KAF,HEBREW LETTER KAF"),
   (0x5DC, "HEBREW LETTER LAMED,HEBREW LETTER FINAL MEM,HEBREW LETTER MEM"),
   (0x5DF, "HEBREW LETTER FINAL NUN,HEBREW LETTER NUN,HEBREW LETTER SAMEKH,HEBREW LETTER AYIN"),
   (0x5E3, "HEBREW LETTER FINAL PE,HEBREW LETTER PE,HEBREW LETTER FINAL TSADI"),
   (0x5E6, "HEBREW LETTER TSADI,HEBREW LETTER QOF,HEBREW LETTER RESH,HEBREW LETTER SHIN"),
   (0x5EA, "HEBREW LETTER TAV"),
   (0x2000, "EN QUAD,EM QUAD,EN SPACE,EM SPACE,THREE-PER-EM SPACE,FOUR-PER-EM SPACE"),
   (0x2006, "SIX-PER-EM SPACE,FIGURE SPACE,PUNCTUATION SPACE,THIN SPACE,HAIR SPACE"),
   (0x200B, "ZERO WIDTH SPACE,ZERO WIDTH NON-JOINER,ZERO WIDTH JOINER,LEFT-TO-RIGHT MARK"),
   (0x200F, "RIGHT-TO-LEFT MARK,HYPHEN,NON-BREAKING HYPHEN,FIGURE DASH,EN DASH,EM DASH"),
   (0x2015, "HORIZONTAL BAR,DOUBLE VERTICAL LINE,DOUBLE LOW LINE,LEFT SINGLE QUOTATION MARK"),
   (0x2019, "RIGHT SINGLE QUOTATION MARK,SINGLE LOW-9 QUOTATION MARK"),
   (0x201B, "SINGLE HIGH-REVERSED-9 QUOTATION MARK,LEFT DOUBLE QUOTATION MARK"),
   (0x201D, "RIGHT DOUBLE QUOTATION MARK,DOUBLE LOW-9 QUOTATION MARK"),
   (0x201F, "DOUBLE HIGH-REVERSED-9 QUOTATION MARK,DAGGER,DOUBLE DAGGER,BULLET,TRIANGULAR BULLET"),
   (0x2024, "ONE DOT LEADER,TWO DOT LEADER,HORIZONTAL ELLIPSIS,HYPHENATION POINT,LINE SEPARATOR"),
   (0x2029, "PARAGRAPH SEPARATOR,LEFT-TO-RIGHT EMBEDDING,RIGHT-TO-LEFT EMBEDDING"),
   (0x202C, "POP DIRECTIONAL FORMATTING,LEFT-TO-RIGHT OVERRIDE,RIGHT-TO-LEFT OVERRIDE"),
   (0x202F, "NARROW NO-BREAK SPACE,PER MILLE SIGN,PER TEN THOUSAND SIGN,PRIME,DOUBLE PRIME"),
   (0x2034, "TRIPLE PRIME,REVERSED PRIME,REVERSED DOUBLE PRIME,REVERSED TRIPLE PRIME,CARET"),
   (0x2039, "SINGLE LEFT-POINTING ANGLE QUOTATION MARK"),
   (0x203A, "SINGLE RIGHT-POINTING ANGLE QUOTATION MARK,REFERENCE MARK,DOUBLE EXCLAMATION MARK"),
   (0x203D, "INTERROBANG,OVERLINE,UNDERTIE,CHARACTER TIE,CARET INSERTION POINT,ASTERISM"),
   (0x2043, "HYPHEN BULLET,FRACTION SLASH,LEFT SQUARE BRACKET WITH QUILL"),
   (0x2046, "RIGHT SQUARE BRACKET WITH QUILL,DOUBLE QUESTION MARK,QUESTION EXCLAMATION MARK"),
   (0x2049, "EXCLAMATION QUESTION MARK,TIRONIAN SIGN ET,REVERSED PILCROW SIGN"),
   (0x204C, "BLACK LEFTWARDS BULLET,BLACK RIGHTWARDS BULLET,LOW ASTERISK,REVERSED SEMICOLON"),
   (0x2050, "CLOSE UP,TWO ASTERISKS ALIGNED VERTICALLY,COMMERCIAL MINUS SIGN,SWUNG DASH"),
   (0x2054, "INVERTED UNDERTIE,FLOWER PUNCTUATION MARK,THREE DOT PUNCTUATION,QUADRUPLE PRIME"),
   (0x2058, "FOUR DOT PUNCTUATION,FIVE DOT PUNCTUATION,TWO DOT PUNCTUATION,FOUR DOT MARK"),
   (0x205C, "DOTTED CROSS,TRICOLON,VERTICAL FOUR DOTS,MEDIUM MATHEMATICAL SPACE,WORD JOINER"),
   (0x2061, "FUNCTION APPLICATION,INVISIBLE TIMES,INVISIBLE SEPARATOR,INVISIBLE PLUS"),
   (0x2066, "LEFT-TO-RIGHT ISOLATE,RIGHT-TO-LEFT ISOLATE,FIRST STRONG ISOLATE"),
   (0x2069, "POP DIRECTIONAL ISOLATE,INHIBIT SYMMETRIC SWAPPING,ACTIVATE SYMMETRIC SWAPPING"),
   (0x206C, "INHIBIT ARABIC FORM SHAPING,ACTIVATE ARABIC FORM SHAPING,NATIONAL DIGIT SHAPES"),
   (0x206F, "NOMINAL DIGIT SHAPES"),
   (0x20A0, "EURO-CURRENCY SIGN,COLON SIGN,CRUZEIRO SIGN,FRENCH FRANC SIGN,LIRA SIGN,MILL SIGN"),
   (0x20A6, "NAIRA SIGN,PESETA SIGN,RUPEE SIGN,WON SIGN,NEW SHEQEL SIGN,DONG SIGN,EURO SIGN"),
   (0x20AD, "KIP SIGN,TUGRIK SIGN,DRACHMA SIGN,GERMAN PENNY SIGN,PESO SIGN,GUARANI SIGN"),
   (0x20B3, "AUSTRAL SIGN,HRYVNIA SIGN,CEDI SIGN,LIVRE TOURNOIS SIGN,SPESMILO SIGN,TENGE SIGN"),
   (0x20B9, "INDIAN RUPEE SIGN,TURKISH LIRA SIGN,NORDIC MARK SIGN,MANAT SIGN,RUBLE SIGN"),
   (0x20BE, "LARI SIGN,BITCOIN SIGN,SOM SIGN"),
   (0x2100, "ACCOUNT OF,ADDRESSED TO THE SUBJECT,DOUBLE-STRUCK CAPITAL C,DEGREE CELSIUS"),
   (0x2104, "CENTRE LINE SYMBOL,CARE OF,CADA UNA,EULER CONSTANT,SCRUPLE,DEGREE FAHRENHEIT"),
   (0x210A, "SCRIPT SMALL G,SCRIPT CAPITAL H,BLACK-LETTER CAPITAL H,DOUBLE-STRUCK CAPITAL H"),
   (0x210E, "PLANCK CONSTANT,PLANCK CONSTANT OVER TWO PI,SCRIPT CAPITAL I,BLACK-LETTER CAPITAL I"),
   (0x2112, "SCRIPT CAPITAL L,SCRIPT SMALL L,L B BAR SYMBOL,DOUBLE-STRUCK CAPITAL N,NUMERO SIGN"),
   (0x2117, "SOUND RECORDING COPYRIGHT,SCRIPT CAPITAL P,DOUBLE-STRUCK CAPITAL P"),
   (0x211A, "DOUBLE-STRUCK CAPITAL Q,SCRIPT CAPITAL R,BLACK-LETTER CAPITAL R"),
   (0x211D, "DOUBLE-STRUCK CAPITAL R,PRESCRIPTION TAKE,RESPONSE,SERVICE MARK,TELEPHONE SIGN"),
   (0x2122, "TRADE MARK SIGN,VERSICLE,DOUBLE-STRUCK CAPITAL Z,OUNCE SIGN,OHM SIGN"),
   (0x2127, "INVERTED OHM SIGN,BLACK-LETTER CAPITAL Z,TURNED GREEK SMALL LETTER IOTA,KELVIN SIGN"),
   (0x212B, "ANGSTROM SIGN,SCRIPT CAPITAL B,BLACK-LETTER CAPITAL C,ESTIMATED SYMBOL"),
   (0x212F, "SCRIPT SMALL E,SCRIPT CAPITAL E,SCRIPT CAPITAL F,TURNED CAPITAL F,SCRIPT CAPITAL M"),
   (0x2134, "SCRIPT SMALL O,ALEF SYMBOL,BET SYMBOL,GIMEL SYMBOL,DALET SYMBOL,INFORMATION SOURCE"),
   (0x213A, "ROTATED CAPITAL Q,FACSIMILE SIGN,DOUBLE-STRUCK SMALL PI,DOUBLE-STRUCK SMALL GAMMA"),
   (0x213E, "DOUBLE-STRUCK CAPITAL GAMMA,DOUBLE-STRUCK CAPITAL PI,DOUBLE-STRUCK N-ARY SUMMATION"),
   (0x2141, "TURNED SANS-SERIF CAPITAL G,TURNED SANS-SERIF CAPITAL L"),
   (0x2143, "REVERSED SANS-SERIF CAPITAL L,TURNED SANS-SERIF CAPITAL Y"),
   (0x2145, "DOUBLE-STRUCK ITALIC CAPITAL D,DOUBLE-STRUCK ITALIC SMALL D"),
   (0x2147, "DOUBLE-STRUCK ITALIC SMALL E,DOUBLE-STRUCK ITALIC SMALL I"),
   (0x2149, "DOUBLE-STRUCK ITALIC SMALL J,PROPERTY LINE,TURNED AMPERSAND,PER SIGN,AKTIESELSKAB"),
   (0x214E, "TURNED SMALL F,SYMBOL FOR SAMARITAN SOURCE,VULGAR FRACTION ONE SEVENTH"),
   (0x2151, "VULGAR FRACTION ONE NINTH,VULGAR FRACTION ONE TENTH,VULGAR FRACTION ONE THIRD"),
   (0x2154, "VULGAR FRACTION TWO THIRDS,VULGAR FRACTION ONE FIFTH,VULGAR FRACTION TWO FIFTHS"),
   (0x2157, "VULGAR FRACTION THREE FIFTHS,VULGAR FRACTION FOUR FIFTHS,VULGAR FRACTION ONE SIXTH"),
   (0x215A, "VULGAR FRACTION FIVE SIXTHS,VULGAR FRACTION ONE EIGHTH"),
   (0x215C, "VULGAR FRACTION THREE EIGHTHS,VULGAR FRACTION FIVE EIGHTHS"),
   (0x215E, "VULGAR FRACTION SEVEN EIGHTHS,FRACTION NUMERATOR ONE,ROMAN NUMERAL ONE"),
   (0x2161, "ROMAN NUMERAL TWO,ROMAN NUMERAL THREE,ROMAN NUMERAL FOUR,ROMAN NUMERAL FIVE"),
   (0x2165, "ROMAN NUMERAL SIX,ROMAN NUMERAL SEVEN,ROMAN NUMERAL EIGHT,ROMAN NUMERAL NINE"),
   (0x2169, "ROMAN NUMERAL TEN,ROMAN NUMERAL ELEVEN,ROMAN NUMERAL TWELVE,ROMAN NUMERAL FIFTY"),
   (0x216D, "ROMAN NUMERAL ONE HUNDRED,ROMAN NUMERAL FIVE HUNDRED,ROMAN NUMERAL ONE THOUSAND"),
   (0x2170, "SMALL ROMAN NUMERAL ONE,SMALL ROMAN NUMERAL TWO,SMALL ROMAN NUMERAL THREE"),
   (0x2173, "SMALL ROMAN NUMERAL FOUR,SMALL ROMAN NUMERAL FIVE,SMALL ROMAN NUMERAL SIX"),
   (0x2176, "SMALL ROMAN NUMERAL SEVEN,SMALL ROMAN NUMERAL EIGHT,SMALL ROMAN NUMERAL NINE"),
   (0x2179, "SMALL ROMAN NUMERAL TEN,SMALL ROMAN NUMERAL ELEVEN,SMALL ROMAN NUMERAL TWELVE"),
   (0x217C, "SMALL ROMAN NUMERAL FIFTY,SMALL ROMAN NUMERAL ONE HUNDRED"),
   (0x217E, "SMALL ROMAN NUMERAL FIVE HUNDRED,SMALL ROMAN NUMERAL ONE THOUSAND"),
   (0x2180, "ROMAN NUMERAL ONE THOUSAND C D,ROMAN NUMERAL FIVE THOUSAND"),
   (0x2182, "ROMAN NUMERAL TEN THOUSAND,ROMAN NUMERAL REVERSED ONE HUNDRED"),
   (0x2184, "LATIN SMALL LETTER REVERSED C,ROMAN NUMERAL SIX LATE FORM"),
   (0x2186, "ROMAN NUMERAL FIFTY EARLY FORM,ROMAN NUMERAL FIFTY THOUSAND"),
   (0x2188, "ROMAN NUMERAL ONE HUNDRED THOUSAND,VULGAR FRACTION ZERO THIRDS,TURNED DIGIT TWO"),
   (0x218B, "TURNED DIGIT THREE"),
   (0x2190, "LEFTWARDS ARROW,UPWARDS ARROW,RIGHTWARDS ARROW,DOWNWARDS ARROW,LEFT RIGHT ARROW"),
   (0x2195, "UP DOWN ARROW,NORTH WEST ARROW,NORTH EAST ARROW,SOUTH EAST ARROW,SOUTH WEST ARROW"),
   (0x2200, "FOR ALL,COMPLEMENT,PARTIAL DIFFERENTIAL,THERE EXISTS,THERE DOES NOT EXIST,EMPTY SET"),
   (0x2206, "INCREMENT,NABLA,ELEMENT OF,NOT AN ELEMENT OF,SMALL ELEMENT OF,CONTAINS AS MEMBER"),
   (0x220C, "DOES NOT CONTAIN AS MEMBER,SMALL CONTAINS AS MEMBER,END OF PROOF,N-ARY PRODUCT"),
   (0x2210, "N-ARY COPRODUCT,N-ARY SUMMATION,MINUS SIGN,MINUS-OR-PLUS SIGN,DOT PLUS"),
   (0x2215, "DIVISION SLASH,SET MINUS,ASTERISK OPERATOR,RING OPERATOR,BULLET OPERATOR"),
   (0x221A, "SQUARE ROOT,CUBE ROOT,FOURTH ROOT,PROPORTIONAL TO,INFINITY,RIGHT ANGLE,ANGLE"),
   (0x2221, "MEASURED ANGLE,SPHERICAL ANGLE,DIVIDES,DOES NOT DIVIDE,PARALLEL TO,NOT PARALLEL TO"),
   (0x2227, "LOGICAL AND,LOGICAL OR,INTERSECTION,UNION,INTEGRAL,DOUBLE INTEGRAL,TRIPLE INTEGRAL"),
   (0x222E, "CONTOUR INTEGRAL,SURFACE INTEGRAL,VOLUME INTEGRAL,CLOCKWISE INTEGRAL"),
   (0x2232, "CLOCKWISE CONTOUR INTEGRAL,ANTICLOCKWISE CONTOUR INTEGRAL,THEREFORE,BECAUSE,RATIO"),
   (0x2237, "PROPORTION,DOT MINUS,EXCESS,GEOMETRIC PROPORTION,HOMOTHETIC,TILDE OPERATOR"),
   (0x223D, "REVERSED TILDE,INVERTED LAZY S,SINE WAVE,WREATH PRODUCT,NOT TILDE,MINUS TILDE"),
   (0x2243, "ASYMPTOTICALLY EQUAL TO,NOT ASYMPTOTICALLY EQUAL TO,APPROXIMATELY EQUAL TO"),
   (0x2246, "APPROXIMATELY BUT NOT ACTUALLY EQUAL TO,NEITHER APPROXIMATELY NOR ACTUALLY EQUAL TO"),
   (0x2248, "ALMOST EQUAL TO,NOT ALMOST EQUAL TO,ALMOST EQUAL OR EQUAL TO,TRIPLE TILDE"),
   (0x224C, "ALL EQUAL TO,EQUIVALENT TO,GEOMETRICALLY EQUIVALENT TO,DIFFERENCE BETWEEN"),
   (0x2250, "APPROACHES THE LIMIT,GEOMETRICALLY EQUAL TO,APPROXIMATELY EQUAL TO OR THE IMAGE OF"),
   (0x2253, "IMAGE OF OR APPROXIMATELY EQUAL TO,COLON EQUALS,EQUALS COLON,RING IN EQUAL TO"),
   (0x2257, "RING EQUAL TO,CORRESPONDS TO,ESTIMATES,EQUIANGULAR TO,STAR EQUALS,DELTA EQUAL TO"),
   (0x225D, "EQUAL TO BY DEFINITION,MEASURED BY,QUESTIONED EQUAL TO,NOT EQUAL TO,IDENTICAL TO"),
   (0x2262, "NOT IDENTICAL TO,STRICTLY EQUIVALENT TO,LESS-THAN OR EQUAL TO"),
   (0x2265, "GREATER-THAN OR EQUAL TO,LESS-THAN OVER EQUAL TO,GREATER-THAN OVER EQUAL TO"),
   (0x2268, "LESS-THAN BUT NOT EQUAL TO,GREATER-THAN BUT NOT EQUAL TO,MUCH LESS-THAN"),
   (0x226B, "MUCH GREATER-THAN"),
   (0x1E9E, "LATIN CAPITAL LETTER SHARP S"),
   (0x25CB, "WHITE CIRCLE"),
   (0x25CF, "BLACK CIRCLE"),
   (0xFEFF, "ZERO WIDTH NO-BREAK SPACE"),
   (0xFFFC, "OBJECT REPLACEMENT CHARACTER,REPLACEMENT CHARACTER"),
   (0xFF10, "FULLWIDTH DIGIT ZERO,FULLWIDTH DIGIT ONE,FULLWIDTH DIGIT TWO,FULLWIDTH DIGIT THREE"),
   (0xFF14, "FULLWIDTH DIGIT FOUR,FULLWIDTH DIGIT FIVE,FULLWIDTH DIGIT SIX,FULLWIDTH DIGIT SEVEN"),
   (0xFF18, "FULLWIDTH DIGIT EIGHT,FULLWIDTH DIGIT NINE"),
   (0xFF21, "FULLWIDTH LATIN CAPITAL LETTER A,FULLWIDTH LATIN CAPITAL LETTER B"),
   (0xFF23, "FULLWIDTH LATIN CAPITAL LETTER C,FULLWIDTH LATIN CAPITAL LETTER D"),
   (0xFF25, "FULLWIDTH LATIN CAPITAL LETTER E,FULLWIDTH LATIN CAPITAL LETTER F"),
   (0xFF27, "FULLWIDTH LATIN CAPITAL LETTER G,FULLWIDTH LATIN CAPITAL LETTER H"),
   (0xFF29, "FULLWIDTH LATIN CAPITAL LETTER I,FULLWIDTH LATIN CAPITAL LETTER J"),
   (0xFF2B, "FULLWIDTH LATIN CAPITAL LETTER K,FULLWIDTH LATIN CAPITAL LETTER L"),
   (0xFF2D, "FULLWIDTH LATIN CAPITAL LETTER M,FULLWIDTH LATIN CAPITAL LETTER N"),
   (0xFF2F, "FULLWIDTH LATIN CAPITAL LETTER O,FULLWIDTH LATIN CAPITAL LETTER P"),
   (0xFF31, "FULLWIDTH LATIN CAPITAL LETTER Q,FULLWIDTH LATIN CAPITAL LETTER R"),
   (0xFF33, "FULLWIDTH LATIN CAPITAL LETTER S,FULLWIDTH LATIN CAPITAL LETTER T"),
   (0xFF35, "FULLWIDTH LATIN CAPITAL LETTER U,FULLWIDTH LATIN CAPITAL LETTER V"),
   (0xFF37, "FULLWIDTH LATIN CAPITAL LETTER W,FULLWIDTH LATIN CAPITAL LETTER X"),
   (0xFF39, "FULLWIDTH LATIN CAPITAL LETTER Y,FULLWIDTH LATIN CAPITAL LETTER Z"),
   (0xFF41, "FULLWIDTH LATIN SMALL LETTER A,FULLWIDTH LATIN SMALL LETTER B"),
   (0xFF43, "FULLWIDTH LATIN SMALL LETTER C,FULLWIDTH LATIN SMALL LETTER D"),
   (0xFF45, "FULLWIDTH LATIN SMALL LETTER E,FULLWIDTH LATIN SMALL LETTER F"),
   (0xFF47, "FULLWIDTH LATIN SMALL LETTER G,FULLWIDTH LATIN SMALL LETTER H"),
   (0xFF49, "FULLWIDTH LATIN SMALL LETTER I,FULLWIDTH LATIN SMALL LETTER J"),
   (0xFF4B, "FULLWIDTH LATIN SMALL LETTER K,FULLWIDTH LATIN SMALL LETTER L"),
   (0xFF4D, "FULLWIDTH LATIN SMALL LETTER M,FULLWIDTH LATIN SMALL LETTER N"),
   (0xFF4F, "FULLWIDTH LATIN SMALL LETTER O,FULLWIDTH LATIN SMALL LETTER P"),
   (0xFF51, "FULLWIDTH LATIN SMALL LETTER Q,FULLWIDTH LATIN SMALL LETTER R"),
   (0xFF53, "FULLWIDTH LATIN SMALL LETTER S,FULLWIDTH LATIN SMALL LETTER T"),
   (0xFF55, "FULLWIDTH LATIN SMALL LETTER U,FULLWIDTH LATIN SMALL LETTER V"),
   (0xFF57, "FULLWIDTH LATIN SMALL LETTER W,FULLWIDTH LATIN SMALL LETTER X"),
   (0xFF59, "FULLWIDTH LATIN SMALL LETTER Y,FULLWIDTH LATIN SMALL LETTER Z")]

/-- Names beside those of the rows. -/
def otherNames : List (Nat × String) :=
  [(0x0, "NULL"), (0x0, "NUL"), (0x1, "START OF HEADING"), (0x1, "SOH"), (0x2, "START OF TEXT"),
   (0x2, "STX"), (0x3, "END OF TEXT"), (0x3, "ETX"), (0x4, "END OF TRANSMISSION"), (0x4, "EOT"),
   (0x5, "ENQUIRY"), (0x5, "ENQ"), (0x6, "ACKNOWLEDGE"), (0x6, "ACK"), (0x7, "ALERT"),
   (0x7, "BEL"), (0x8, "BACKSPACE"), (0x8, "BS"), (0x9, "CHARACTER TABULATION"),
   (0x9, "HORIZONTAL TABULATION"), (0x9, "HT"), (0x9, "TAB"), (0xA, "LINE FEED"),
   (0xA, "NEW LINE"), (0xA, "END OF LINE"), (0xA, "LF"), (0xA, "NL"), (0xA, "EOL"),
   (0xB, "LINE TABULATION"), (0xB, "VERTICAL TABULATION"), (0xB, "VT"), (0xC, "FORM FEED"),
   (0xC, "FF"), (0xD, "CARRIAGE RETURN"), (0xD, "CR"), (0xE, "SHIFT OUT"),
   (0xE, "LOCKING-SHIFT ONE"), (0xE, "SO"), (0xF, "SHIFT IN"), (0xF, "LOCKING-SHIFT ZERO"),
   (0xF, "SI"), (0x10, "DATA LINK ESCAPE"), (0x10, "DLE"), (0x11, "DEVICE CONTROL ONE"),
   (0x11, "DC1"), (0x12, "DEVICE CONTROL TWO"), (0x12, "DC2"), (0x13, "DEVICE CONTROL THREE"),
   (0x13, "DC3"), (0x14, "DEVICE CONTROL FOUR"), (0x14, "DC4"), (0x15, "NEGATIVE ACKNOWLEDGE"),
   (0x15, "NAK"), (0x16, "SYNCHRONOUS IDLE"), (0x16, "SYN"), (0x17, "END OF TRANSMISSION BLOCK"),
   (0x17, "ETB"), (0x18, "CANCEL"), (0x18, "CAN"), (0x19, "END OF MEDIUM"), (0x19, "EOM"),
   (0x1A, "SUBSTITUTE"), (0x1A, "SUB"), (0x1B, "ESCAPE"), (0x1B, "ESC"),
   (0x1C, "INFORMATION SEPARATOR FOUR"), (0x1C, "FILE SEPARATOR"), (0x1C, "FS"),
   (0x1D, "INFORMATION SEPARATOR THREE"), (0x1D, "GROUP SEPARATOR"), (0x1D, "GS"),
   (0x1E, "INFORMATION SEPARATOR TWO"), (0x1E, "RECORD SEPARATOR"), (0x1E, "RS"),
   (0x1F, "INFORMATION SEPARATOR ONE"), (0x1F, "UNIT SEPARATOR"), (0x1F, "US"), (0x20, "SP"),
   (0x7F, "DELETE"), (0x7F, "DEL"), (0x80, "PADDING CHARACTER"), (0x80, "PAD"),
   (0x81, "HIGH OCTET PRESET"), (0x81, "HOP"), (0x82, "BREAK PERMITTED HERE"), (0x82, "BPH"),
   (0x83, "NO BREAK HERE"), (0x83, "NBH"), (0x84, "INDEX"), (0x84, "IND"), (0x85, "NEXT LINE"),
   (0x85, "NEL"), (0x86, "START OF SELECTED AREA"), (0x86, "SSA"), (0x87, "END OF SELECTED AREA"),
   (0x87, "ESA"), (0x88, "CHARACTER TABULATION SET"), (0x88, "HORIZONTAL TABULATION SET"),
   (0x88, "HTS"), (0x89, "CHARACTER TABULATION WITH JUSTIFICATION"),
   (0x89, "HORIZONTAL TABULATION WITH JUSTIFICATION"), (0x89, "HTJ"),
   (0x8A, "LINE TABULATION SET"), (0x8A, "VERTICAL TABULATION SET"), (0x8A, "VTS"),
   (0x8B, "PARTIAL LINE FORWARD"), (0x8B, "PARTIAL LINE DOWN"), (0x8B, "PLD"),
   (0x8C, "PARTIAL LINE BACKWARD"), (0x8C, "PARTIAL LINE UP"), (0x8C, "PLU"),
   (0x8D, "REVERSE LINE FEED"), (0x8D, "REVERSE INDEX"), (0x8D, "RI"), (0x8E, "SINGLE SHIFT TWO"),
   (0x8E, "SINGLE-SHIFT-2"), (0x8E, "SS2"), (0x8F, "SINGLE SHIFT THREE"), (0x8F, "SINGLE-SHIFT-3"),
   (0x8F, "SS3"), (0x90, "DEVICE CONTROL STRING"), (0x90, "DCS"), (0x91, "PRIVATE USE ONE"),
   (0x91, "PRIVATE USE-1"), (0x91, "PU1"), (0x92, "PRIVATE USE TWO"), (0x92, "PRIVATE USE-2"),
   (0x92, "PU2"), (0x93, "SET TRANSMIT STATE"), (0x93, "STS"), (0x94, "CANCEL CHARACTER"),
   (0x94, "CCH"), (0x95, "MESSAGE WAITING"), (0x95, "MW"), (0x96, "START OF GUARDED AREA"),
   (0x96, "START OF PROTECTED AREA"), (0x96, "SPA"), (0x97, "END OF GUARDED AREA"),
   (0x97, "END OF PROTECTED AREA"), (0x97, "EPA"), (0x98, "START OF STRING"), (0x98, "SOS"),
   (0x99, "SINGLE GRAPHIC CHARACTER INTRODUCER"), (0x99, "SGC"),
   (0x9A, "SINGLE CHARACTER INTRODUCER"), (0x9A, "SCI"), (0x9B, "CONTROL SEQUENCE INTRODUCER"),
   (0x9B, "CSI"), (0x9C, "STRING TERMINATOR"), (0x9C, "ST"), (0x9D, "OPERATING SYSTEM COMMAND"),
   (0x9D, "OSC"), (0x9E, "PRIVACY MESSAGE"), (0x9E, "PM"), (0x9F, "APPLICATION PROGRAM COMMAND"),
   (0x9F, "APC"), (0xA0, "NBSP"), (0xAD, "SHY"), (0x34F, "COMBINING GRAPHEME JOINER"),
   (0x34F, "CGJ"), (0x200B, "ZWSP"), (0x200C, "ZWNJ"), (0x200D, "ZWJ"), (0x200E, "LRM"),
   (0x200F, "RLM"), (0x202A, "LRE"), (0x202B, "RLE"), (0x202C, "PDF"), (0x202D, "LRO"),
   (0x202E, "RLO"), (0x202F, "NNBSP"), (0x205F, "MMSP"), (0x2060, "WJ"), (0x2066, "LRI"),
   (0x2067, "RLI"), (0x2068, "FSI"), (0x2069, "PDI"), (0x2118, "WEIERSTRASS ELLIPTIC FUNCTION"),
   (0xFEFF, "BYTE ORDER MARK"), (0xFEFF, "BOM"), (0xFEFF, "ZWNBSP")]

/-- The place of a name in a row of names. -/
def codeInRow? (name : List Char) (row : Nat × String) : Option Nat :=
  ((pieces ',' row.2.toList).idxOf? name).map (row.1 + ·)

/-- The code point of the common character with the given name. -/
def commonCode? (name : List Char) : Option Nat :=
  let name := name.map Char.toUpper
  match nameRows.findSome? (codeInRow? name) with
  | some code => some code
  | none => (otherNames.find? fun entry ↦ entry.2.toList == name).map (·.1)

end LicenseHeaders.Text
