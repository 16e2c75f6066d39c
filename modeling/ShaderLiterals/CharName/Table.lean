/-! # Characters whose names follow no rule, and aliases -/

namespace ShaderLiterals.CharName

/-- The code point of each name. -/
def table : List (String × Nat) :=
  [
    ("ALERT", 0x0007), ("APOSTROPHE", 0x0027),
    ("ARABIC LIGATURE UIGHUR KIRGHIZ YEH WITH HAMZA ABOVE WITH ALEF MAKSURA ISOLATED FORM", 0xFBF9),
    ("BACKSPACE", 0x0008), ("BEL", 0x0007), ("BELL", 0x1F514), ("BLACK STAR", 0x2605),
    ("BOM", 0xFEFF), ("BOX DRAWINGS LIGHT DIAGONAL UPPER CENTRE TO MIDDLE LEFT", 0x1FBA0),
    ("BS", 0x0008), ("BULLET", 0x2022), ("BYTE ORDER MARK", 0xFEFF), ("CARRIAGE RETURN", 0x000D),
    ("CHARACTER TABULATION", 0x0009), ("CJK COMPATIBILITY IDEOGRAPH-F900", 0xF900),
    ("COMBINING ACUTE ACCENT", 0x0301), ("CR", 0x000D), ("CYRILLIC SMALL LETTER YA", 0x044F),
    ("DEL", 0x007F), ("DELETE", 0x007F), ("DIGIT ZERO", 0x0030), ("EM DASH", 0x2014),
    ("EN DASH", 0x2013), ("END OF LINE", 0x000A), ("EOL", 0x000A), ("ESC", 0x001B),
    ("ESCAPE", 0x001B), ("EURO SIGN", 0x20AC), ("FF", 0x000C), ("FORM FEED", 0x000C),
    ("GREEK CAPITAL LETTER OMEGA", 0x03A9), ("GREEK SMALL LETTER ALPHA", 0x03B1),
    ("GRINNING FACE", 0x1F600), ("HANGUL JUNGSEONG O-E", 0x1180), ("HANGUL JUNGSEONG OE", 0x116C),
    ("HEBREW LETTER ALEF", 0x05D0), ("HORIZONTAL TABULATION", 0x0009), ("HT", 0x0009),
    ("HYPHEN-MINUS", 0x002D), ("INFINITY", 0x221E), ("KELVIN SIGN", 0x212A),
    ("KHITAN SMALL SCRIPT CHARACTER-18B00", 0x18B00), ("LATIN CAPITAL LETTER A", 0x0041),
    ("LATIN CAPITAL LETTER GHA", 0x01A2), ("LATIN CAPITAL LETTER OI", 0x01A2),
    ("LATIN SMALL LETTER A", 0x0061), ("LATIN SMALL LETTER DOTLESS I", 0x0131),
    ("LATIN SMALL LETTER E WITH ACUTE", 0x00E9), ("LATIN SMALL LETTER SHARP S", 0x00DF),
    ("LEFT CURLY BRACKET", 0x007B), ("LF", 0x000A), ("LINE FEED", 0x000A),
    ("LINE SEPARATOR", 0x2028), ("MATHEMATICAL BOLD CAPITAL A", 0x1D400),
    ("MULTIPLICATION SIGN", 0x00D7), ("NBSP", 0x00A0), ("NEL", 0x0085), ("NEW LINE", 0x000A),
    ("NEXT LINE", 0x0085), ("NL", 0x000A), ("NO-BREAK SPACE", 0x00A0), ("NUL", 0x0000),
    ("NULL", 0x0000), ("NUSHU CHARACTER-1B170", 0x1B170), ("NUSHU CHARACTER-1B171", 0x1B171),
    ("PAD", 0x0080), ("PADDING CHARACTER", 0x0080), ("PILE OF POO", 0x1F4A9),
    ("PRESENTATION FORM FOR VERTICAL RIGHT WHITE LENTICULAR BRACKET", 0xFE18),
    ("PRESENTATION FORM FOR VERTICAL RIGHT WHITE LENTICULAR BRAKCET", 0xFE18),
    ("QUOTATION MARK", 0x0022), ("REPLACEMENT CHARACTER", 0xFFFD), ("REVERSE SOLIDUS", 0x005C),
    ("RIGHT CURLY BRACKET", 0x007D), ("RIGHTWARDS ARROW", 0x2192), ("SHY", 0x00AD),
    ("SNOWMAN", 0x2603), ("SP", 0x0020), ("SPACE", 0x0020), ("TAB", 0x0009),
    ("TIBETAN LETTER -A", 0x0F60), ("TIBETAN MARK TSA -PHRU", 0x0F39),
    ("VARIATION SELECTOR-16", 0xFE0F), ("VARIATION SELECTOR-256", 0xE01EF), ("VS1", 0xFE00),
    ("VS16", 0xFE0F), ("WEIERSTRASS ELLIPTIC FUNCTION", 0x2118), ("ZERO WIDTH JOINER", 0x200D),
    ("ZWJ", 0x200D), ("ZWNJ", 0x200C), ("ZWSP", 0x200B)]

end ShaderLiterals.CharName
