import Excerpt.Text.Blank

/-!
Names of characters. A name is matched in either case. The tables hold the names of the scripts and
symbols most in use, each list under the words that its names start with; ideographs and Hangul
syllables are named by rule.
-/
namespace Excerpt

/-- Names, under the words they start with; bars stand between them. -/
def characterNames : List (String × List String) :=
  [("LATIN CAPITAL LETTER ",
    ["A|A WITH ACUTE|A WITH BREVE|A WITH CIRCUMFLEX|A WITH DIAERESIS|A WITH GRAVE|A WITH MACRON",
     "A WITH OGONEK|A WITH RING ABOVE|A WITH TILDE|AE|B|C|C WITH ACUTE|C WITH CARON",
     "C WITH CEDILLA|C WITH CIRCUMFLEX|C WITH DOT ABOVE|D|D WITH CARON|D WITH STROKE|E",
     "E WITH ACUTE|E WITH BREVE|E WITH CARON|E WITH CIRCUMFLEX|E WITH DIAERESIS|E WITH DOT ABOVE",
     "E WITH GRAVE|E WITH MACRON|E WITH OGONEK|ENG|ETH|F|G|G WITH BREVE|G WITH CEDILLA",
     "G WITH CIRCUMFLEX|G WITH DOT ABOVE|GHA|H|H WITH CIRCUMFLEX|H WITH STROKE|I|I WITH ACUTE",
     "I WITH BREVE|I WITH CIRCUMFLEX|I WITH DIAERESIS|I WITH DOT ABOVE|I WITH GRAVE",
     "I WITH MACRON|I WITH OGONEK|I WITH TILDE|J|J WITH CIRCUMFLEX|K|K WITH CEDILLA|L",
     "L WITH ACUTE|L WITH CARON|L WITH CEDILLA|L WITH MIDDLE DOT|L WITH STROKE|M|N|N WITH ACUTE",
     "N WITH CARON|N WITH CEDILLA|N WITH TILDE|O|O WITH ACUTE|O WITH BREVE|O WITH CIRCUMFLEX",
     "O WITH DIAERESIS|O WITH DOUBLE ACUTE|O WITH GRAVE|O WITH MACRON|O WITH STROKE|O WITH TILDE",
     "P|Q|R|R WITH ACUTE|R WITH CARON|R WITH CEDILLA|S|S WITH ACUTE|S WITH CARON|S WITH CEDILLA",
     "S WITH CIRCUMFLEX|T|T WITH CARON|T WITH CEDILLA|T WITH STROKE|THORN|U|U WITH ACUTE",
     "U WITH BREVE|U WITH CIRCUMFLEX|U WITH DIAERESIS|U WITH DOUBLE ACUTE|U WITH GRAVE",
     "U WITH MACRON|U WITH OGONEK|U WITH RING ABOVE|U WITH TILDE|V|W|W WITH CIRCUMFLEX|X|Y",
     "Y WITH ACUTE|Y WITH CIRCUMFLEX|Y WITH DIAERESIS|Z|Z WITH ACUTE|Z WITH CARON",
     "Z WITH DOT ABOVE"]),
   ("LATIN SMALL LETTER ",
    ["A|A WITH ACUTE|A WITH BREVE|A WITH CIRCUMFLEX|A WITH DIAERESIS|A WITH GRAVE|A WITH MACRON",
     "A WITH OGONEK|A WITH RING ABOVE|A WITH TILDE|AE|B|C|C WITH ACUTE|C WITH CARON",
     "C WITH CEDILLA|C WITH CIRCUMFLEX|C WITH DOT ABOVE|D|D WITH CARON|D WITH STROKE|DOTLESS I|E",
     "E WITH ACUTE|E WITH BREVE|E WITH CARON|E WITH CIRCUMFLEX|E WITH DIAERESIS|E WITH DOT ABOVE",
     "E WITH GRAVE|E WITH MACRON|E WITH OGONEK|ENG|ETH|F|G|G WITH BREVE|G WITH CEDILLA",
     "G WITH CIRCUMFLEX|G WITH DOT ABOVE|GHA|H|H WITH CIRCUMFLEX|H WITH STROKE|I|I WITH ACUTE",
     "I WITH BREVE|I WITH CIRCUMFLEX|I WITH DIAERESIS|I WITH GRAVE|I WITH MACRON|I WITH OGONEK",
     "I WITH TILDE|J|J WITH CIRCUMFLEX|K|K WITH CEDILLA|KRA|L|L WITH ACUTE|L WITH CARON",
     "L WITH CEDILLA|L WITH MIDDLE DOT|L WITH STROKE|LONG S|M|N|N PRECEDED BY APOSTROPHE",
     "N WITH ACUTE|N WITH CARON|N WITH CEDILLA|N WITH TILDE|O|O WITH ACUTE|O WITH BREVE",
     "O WITH CIRCUMFLEX|O WITH DIAERESIS|O WITH DOUBLE ACUTE|O WITH GRAVE|O WITH MACRON",
     "O WITH STROKE|O WITH TILDE|P|Q|R|R WITH ACUTE|R WITH CARON|R WITH CEDILLA|REVERSED C|S",
     "S WITH ACUTE|S WITH CARON|S WITH CEDILLA|S WITH CIRCUMFLEX|SHARP S|T|T WITH CARON",
     "T WITH CEDILLA|T WITH STROKE|THORN|U|U WITH ACUTE|U WITH BREVE|U WITH CIRCUMFLEX",
     "U WITH DIAERESIS|U WITH DOUBLE ACUTE|U WITH GRAVE|U WITH MACRON|U WITH OGONEK",
     "U WITH RING ABOVE|U WITH TILDE|V|W|W WITH CIRCUMFLEX|X|Y|Y WITH ACUTE|Y WITH CIRCUMFLEX",
     "Y WITH DIAERESIS|Z|Z WITH ACUTE|Z WITH CARON|Z WITH DOT ABOVE"]),
   ("BOX DRAWINGS ",
    ["DOUBLE DOWN AND HORIZONTAL|DOUBLE DOWN AND LEFT|DOUBLE DOWN AND RIGHT|DOUBLE HORIZONTAL",
     "DOUBLE UP AND HORIZONTAL|DOUBLE UP AND LEFT|DOUBLE UP AND RIGHT|DOUBLE VERTICAL",
     "DOUBLE VERTICAL AND HORIZONTAL|DOUBLE VERTICAL AND LEFT|DOUBLE VERTICAL AND RIGHT",
     "DOWN DOUBLE AND HORIZONTAL SINGLE|DOWN DOUBLE AND LEFT SINGLE|DOWN DOUBLE AND RIGHT SINGLE",
     "DOWN HEAVY AND HORIZONTAL LIGHT|DOWN HEAVY AND LEFT LIGHT|DOWN HEAVY AND LEFT UP LIGHT",
     "DOWN HEAVY AND RIGHT LIGHT|DOWN HEAVY AND RIGHT UP LIGHT",
     "DOWN HEAVY AND UP HORIZONTAL LIGHT|DOWN LIGHT AND HORIZONTAL HEAVY",
     "DOWN LIGHT AND LEFT HEAVY|DOWN LIGHT AND LEFT UP HEAVY|DOWN LIGHT AND RIGHT HEAVY",
     "DOWN LIGHT AND RIGHT UP HEAVY|DOWN LIGHT AND UP HORIZONTAL HEAVY",
     "DOWN SINGLE AND HORIZONTAL DOUBLE|DOWN SINGLE AND LEFT DOUBLE|DOWN SINGLE AND RIGHT DOUBLE",
     "HEAVY DOUBLE DASH HORIZONTAL|HEAVY DOUBLE DASH VERTICAL|HEAVY DOWN",
     "HEAVY DOWN AND HORIZONTAL|HEAVY DOWN AND LEFT|HEAVY DOWN AND RIGHT|HEAVY HORIZONTAL",
     "HEAVY LEFT|HEAVY LEFT AND LIGHT RIGHT|HEAVY QUADRUPLE DASH HORIZONTAL",
     "HEAVY QUADRUPLE DASH VERTICAL|HEAVY RIGHT|HEAVY TRIPLE DASH HORIZONTAL",
     "HEAVY TRIPLE DASH VERTICAL|HEAVY UP|HEAVY UP AND HORIZONTAL|HEAVY UP AND LEFT",
     "HEAVY UP AND LIGHT DOWN|HEAVY UP AND RIGHT|HEAVY VERTICAL|HEAVY VERTICAL AND HORIZONTAL",
     "HEAVY VERTICAL AND LEFT|HEAVY VERTICAL AND RIGHT|LEFT DOWN HEAVY AND RIGHT UP LIGHT",
     "LEFT HEAVY AND RIGHT DOWN LIGHT|LEFT HEAVY AND RIGHT UP LIGHT",
     "LEFT HEAVY AND RIGHT VERTICAL LIGHT|LEFT LIGHT AND RIGHT DOWN HEAVY",
     "LEFT LIGHT AND RIGHT UP HEAVY|LEFT LIGHT AND RIGHT VERTICAL HEAVY",
     "LEFT UP HEAVY AND RIGHT DOWN LIGHT|LIGHT ARC DOWN AND LEFT|LIGHT ARC DOWN AND RIGHT",
     "LIGHT ARC UP AND LEFT|LIGHT ARC UP AND RIGHT|LIGHT DIAGONAL CROSS",
     "LIGHT DIAGONAL UPPER LEFT TO LOWER RIGHT|LIGHT DIAGONAL UPPER RIGHT TO LOWER LEFT",
     "LIGHT DOUBLE DASH HORIZONTAL|LIGHT DOUBLE DASH VERTICAL|LIGHT DOWN",
     "LIGHT DOWN AND HORIZONTAL|LIGHT DOWN AND LEFT|LIGHT DOWN AND RIGHT|LIGHT HORIZONTAL",
     "LIGHT LEFT|LIGHT LEFT AND HEAVY RIGHT|LIGHT QUADRUPLE DASH HORIZONTAL",
     "LIGHT QUADRUPLE DASH VERTICAL|LIGHT RIGHT|LIGHT TRIPLE DASH HORIZONTAL",
     "LIGHT TRIPLE DASH VERTICAL|LIGHT UP|LIGHT UP AND HEAVY DOWN|LIGHT UP AND HORIZONTAL",
     "LIGHT UP AND LEFT|LIGHT UP AND RIGHT|LIGHT VERTICAL|LIGHT VERTICAL AND HORIZONTAL",
     "LIGHT VERTICAL AND LEFT|LIGHT VERTICAL AND RIGHT|RIGHT DOWN HEAVY AND LEFT UP LIGHT",
     "RIGHT HEAVY AND LEFT DOWN LIGHT|RIGHT HEAVY AND LEFT UP LIGHT",
     "RIGHT HEAVY AND LEFT VERTICAL LIGHT|RIGHT LIGHT AND LEFT DOWN HEAVY",
     "RIGHT LIGHT AND LEFT UP HEAVY|RIGHT LIGHT AND LEFT VERTICAL HEAVY",
     "RIGHT UP HEAVY AND LEFT DOWN LIGHT|UP DOUBLE AND HORIZONTAL SINGLE",
     "UP DOUBLE AND LEFT SINGLE|UP DOUBLE AND RIGHT SINGLE|UP HEAVY AND DOWN HORIZONTAL LIGHT",
     "UP HEAVY AND HORIZONTAL LIGHT|UP HEAVY AND LEFT DOWN LIGHT|UP HEAVY AND LEFT LIGHT",
     "UP HEAVY AND RIGHT DOWN LIGHT|UP HEAVY AND RIGHT LIGHT|UP LIGHT AND DOWN HORIZONTAL HEAVY",
     "UP LIGHT AND HORIZONTAL HEAVY|UP LIGHT AND LEFT DOWN HEAVY|UP LIGHT AND LEFT HEAVY",
     "UP LIGHT AND RIGHT DOWN HEAVY|UP LIGHT AND RIGHT HEAVY|UP SINGLE AND HORIZONTAL DOUBLE",
     "UP SINGLE AND LEFT DOUBLE|UP SINGLE AND RIGHT DOUBLE|VERTICAL DOUBLE AND HORIZONTAL SINGLE",
     "VERTICAL DOUBLE AND LEFT SINGLE|VERTICAL DOUBLE AND RIGHT SINGLE",
     "VERTICAL HEAVY AND HORIZONTAL LIGHT|VERTICAL HEAVY AND LEFT LIGHT",
     "VERTICAL HEAVY AND RIGHT LIGHT|VERTICAL LIGHT AND HORIZONTAL HEAVY",
     "VERTICAL LIGHT AND LEFT HEAVY|VERTICAL LIGHT AND RIGHT HEAVY",
     "VERTICAL SINGLE AND HORIZONTAL DOUBLE|VERTICAL SINGLE AND LEFT DOUBLE",
     "VERTICAL SINGLE AND RIGHT DOUBLE"]),
   ("KATAKANA LETTER ",
    ["A|BA|BE|BI|BO|BU|DA|DE|DI|DO|DU|E|GA|GE|GI|GO|GU|HA|HE|HI|HO|HU|I|KA|KE|KI|KO|KU|MA|ME|MI",
     "MO|MU|N|NA|NE|NI|NO|NU|O|PA|PE|PI|PO|PU|RA|RE|RI|RO|RU|SA|SE|SI|SMALL A|SMALL E|SMALL I",
     "SMALL KA|SMALL KE|SMALL O|SMALL TU|SMALL U|SMALL WA|SMALL YA|SMALL YO|SMALL YU|SO|SU|TA|TE",
     "TI|TO|TU|U|VA|VE|VI|VO|VU|WA|WE|WI|WO|YA|YO|YU|ZA|ZE|ZI|ZO|ZU"]),
   ("HIRAGANA LETTER ",
    ["A|BA|BE|BI|BO|BU|DA|DE|DI|DO|DU|E|GA|GE|GI|GO|GU|HA|HE|HI|HO|HU|I|KA|KE|KI|KO|KU|MA|ME|MI",
     "MO|MU|N|NA|NE|NI|NO|NU|O|PA|PE|PI|PO|PU|RA|RE|RI|RO|RU|SA|SE|SI|SMALL A|SMALL E|SMALL I",
     "SMALL KA|SMALL KE|SMALL O|SMALL TU|SMALL U|SMALL WA|SMALL YA|SMALL YO|SMALL YU|SO|SU|TA|TE",
     "TI|TO|TU|U|VU|WA|WE|WI|WO|YA|YO|YU|ZA|ZE|ZI|ZO|ZU"]),
   ("CYRILLIC CAPITAL LETTER ",
    ["A|BE|BYELORUSSIAN-UKRAINIAN I|CHE|DE|DJE|DZE|DZHE|E|EF|EL|EM|EN|ER|ES|GHE|GHE WITH UPTURN",
     "GJE|HA|HARD SIGN|I|I WITH GRAVE|IE|IE WITH GRAVE|IO|JE|KA|KJE|LJE|NJE|O|PE|SHA|SHCHA",
     "SHORT I|SHORT U|SOFT SIGN|TE|TSE|TSHE|U|UKRAINIAN IE|VE|YA|YERU|YI|YU|ZE|ZHE"]),
   ("CYRILLIC SMALL LETTER ",
    ["A|BE|BYELORUSSIAN-UKRAINIAN I|CHE|DE|DJE|DZE|DZHE|E|EF|EL|EM|EN|ER|ES|GHE|GHE WITH UPTURN",
     "GJE|HA|HARD SIGN|I|I WITH GRAVE|IE|IE WITH GRAVE|IO|JE|KA|KJE|LJE|NJE|O|PE|SHA|SHCHA",
     "SHORT I|SHORT U|SOFT SIGN|TE|TSE|TSHE|U|UKRAINIAN IE|VE|YA|YERU|YI|YU|ZE|ZHE"]),
   ("FULLWIDTH ",
    ["AMPERSAND|APOSTROPHE|ASTERISK|CIRCUMFLEX ACCENT|COLON|COMMA|COMMERCIAL AT|DIGIT EIGHT",
     "DIGIT FIVE|DIGIT FOUR|DIGIT NINE|DIGIT ONE|DIGIT SEVEN|DIGIT SIX|DIGIT THREE|DIGIT TWO",
     "DIGIT ZERO|DOLLAR SIGN|EQUALS SIGN|EXCLAMATION MARK|FULL STOP|GRAVE ACCENT",
     "GREATER-THAN SIGN|HYPHEN-MINUS|LATIN CAPITAL LETTER A|LATIN CAPITAL LETTER B",
     "LATIN CAPITAL LETTER C|LATIN CAPITAL LETTER D|LATIN CAPITAL LETTER E",
     "LATIN CAPITAL LETTER F|LATIN CAPITAL LETTER G|LATIN CAPITAL LETTER H",
     "LATIN CAPITAL LETTER I|LATIN CAPITAL LETTER J|LATIN CAPITAL LETTER K",
     "LATIN CAPITAL LETTER L|LATIN CAPITAL LETTER M|LATIN CAPITAL LETTER N",
     "LATIN CAPITAL LETTER O|LATIN CAPITAL LETTER P|LATIN CAPITAL LETTER Q",
     "LATIN CAPITAL LETTER R|LATIN CAPITAL LETTER S|LATIN CAPITAL LETTER T",
     "LATIN CAPITAL LETTER U|LATIN CAPITAL LETTER V|LATIN CAPITAL LETTER W",
     "LATIN CAPITAL LETTER X|LATIN CAPITAL LETTER Y|LATIN CAPITAL LETTER Z|LATIN SMALL LETTER A",
     "LATIN SMALL LETTER B|LATIN SMALL LETTER C|LATIN SMALL LETTER D|LATIN SMALL LETTER E",
     "LATIN SMALL LETTER F|LATIN SMALL LETTER G|LATIN SMALL LETTER H|LATIN SMALL LETTER I",
     "LATIN SMALL LETTER J|LATIN SMALL LETTER K|LATIN SMALL LETTER L|LATIN SMALL LETTER M",
     "LATIN SMALL LETTER N|LATIN SMALL LETTER O|LATIN SMALL LETTER P|LATIN SMALL LETTER Q",
     "LATIN SMALL LETTER R|LATIN SMALL LETTER S|LATIN SMALL LETTER T|LATIN SMALL LETTER U",
     "LATIN SMALL LETTER V|LATIN SMALL LETTER W|LATIN SMALL LETTER X|LATIN SMALL LETTER Y",
     "LATIN SMALL LETTER Z|LEFT CURLY BRACKET|LEFT PARENTHESIS|LEFT SQUARE BRACKET",
     "LESS-THAN SIGN|LOW LINE|NUMBER SIGN|PERCENT SIGN|PLUS SIGN|QUESTION MARK|QUOTATION MARK",
     "REVERSE SOLIDUS|RIGHT CURLY BRACKET|RIGHT PARENTHESIS|RIGHT SQUARE BRACKET|SEMICOLON",
     "SOLIDUS|TILDE|VERTICAL LINE"]),
   ("MATHEMATICAL BOLD ",
    ["CAPITAL A|CAPITAL B|CAPITAL C|CAPITAL D|CAPITAL E|CAPITAL F|CAPITAL G|CAPITAL H|CAPITAL I",
     "CAPITAL J|CAPITAL K|CAPITAL L|CAPITAL M|CAPITAL N|CAPITAL O|CAPITAL P|CAPITAL Q|CAPITAL R",
     "CAPITAL S|CAPITAL T|CAPITAL U|CAPITAL V|CAPITAL W|CAPITAL X|CAPITAL Y|CAPITAL Z|SMALL A",
     "SMALL B|SMALL C|SMALL D|SMALL E|SMALL F|SMALL G|SMALL H|SMALL I|SMALL J|SMALL K|SMALL L",
     "SMALL M|SMALL N|SMALL O|SMALL P|SMALL Q|SMALL R|SMALL S|SMALL T|SMALL U|SMALL V|SMALL W",
     "SMALL X|SMALL Y|SMALL Z"]),
   ("GREEK SMALL LETTER ",
    ["ALPHA|ALPHA WITH TONOS|ARCHAIC KOPPA|ARCHAIC SAMPI|BETA|CHI|DELTA|DIGAMMA|EPSILON",
     "EPSILON WITH TONOS|ETA|ETA WITH TONOS|FINAL SIGMA|GAMMA|HETA|IOTA|IOTA WITH DIALYTIKA",
     "IOTA WITH DIALYTIKA AND TONOS|IOTA WITH TONOS|KAPPA|KOPPA|LAMDA|MU|NU|OMEGA",
     "OMEGA WITH TONOS|OMICRON|OMICRON WITH TONOS|PAMPHYLIAN DIGAMMA|PHI|PI|PSI|RHO|SAMPI|SAN",
     "SHO|SIGMA|STIGMA|TAU|THETA|UPSILON|UPSILON WITH DIALYTIKA|UPSILON WITH DIALYTIKA AND TONOS",
     "UPSILON WITH TONOS|XI|ZETA"]),
   ("REGIONAL INDICATOR SYMBOL LETTER ",
    ["A|B|C|D|E|F|G|H|I|J|K|L|M|N|O|P|Q|R|S|T|U|V|W|X|Y|Z"]),
   ("GREEK CAPITAL LETTER ",
    ["ALPHA|ALPHA WITH TONOS|ARCHAIC SAMPI|BETA|CHI|DELTA|EPSILON|EPSILON WITH TONOS|ETA",
     "ETA WITH TONOS|GAMMA|HETA|IOTA|IOTA WITH DIALYTIKA|IOTA WITH TONOS|KAPPA|LAMDA|MU|NU|OMEGA",
     "OMEGA WITH TONOS|OMICRON|OMICRON WITH TONOS|PAMPHYLIAN DIGAMMA|PHI|PI|PSI|RHO|SAN|SHO",
     "SIGMA|TAU|THETA|UPSILON|UPSILON WITH DIALYTIKA|UPSILON WITH TONOS|XI|YOT|ZETA"]),
   ("COMBINING ",
    ["ACUTE ACCENT|ACUTE ACCENT BELOW|ACUTE TONE MARK|BREVE|BREVE BELOW|BRIDGE BELOW|CANDRABINDU",
     "CARON|CARON BELOW|CEDILLA|CIRCUMFLEX ACCENT|CIRCUMFLEX ACCENT BELOW|COMMA ABOVE",
     "COMMA ABOVE RIGHT|COMMA BELOW|DIAERESIS|DIAERESIS BELOW|DOT ABOVE|DOT BELOW",
     "DOUBLE ACUTE ACCENT|DOUBLE GRAVE ACCENT|DOUBLE LOW LINE|DOUBLE OVERLINE",
     "DOUBLE VERTICAL LINE ABOVE|DOWN TACK BELOW|GRAVE ACCENT|GRAVE ACCENT BELOW|GRAVE TONE MARK",
     "GREEK DIALYTIKA TONOS|GREEK KORONIS|GREEK PERISPOMENI|GREEK YPOGEGRAMMENI|HOOK ABOVE|HORN",
     "INVERTED BREVE|INVERTED BREVE BELOW|INVERTED BRIDGE BELOW|INVERTED DOUBLE ARCH BELOW",
     "KATAKANA-HIRAGANA SEMI-VOICED SOUND MARK|KATAKANA-HIRAGANA VOICED SOUND MARK",
     "LEFT ANGLE ABOVE|LEFT HALF RING BELOW|LEFT TACK BELOW|LONG SOLIDUS OVERLAY",
     "LONG STROKE OVERLAY|LOW LINE|MACRON|MACRON BELOW|MINUS SIGN BELOW|OGONEK|OVERLINE",
     "PALATALIZED HOOK BELOW|PLUS SIGN BELOW|RETROFLEX HOOK BELOW|REVERSED COMMA ABOVE",
     "RIGHT HALF RING BELOW|RIGHT TACK BELOW|RING ABOVE|RING BELOW|SEAGULL BELOW",
     "SHORT SOLIDUS OVERLAY|SHORT STROKE OVERLAY|SQUARE BELOW|TILDE|TILDE BELOW|TILDE OVERLAY",
     "TURNED COMMA ABOVE|UP TACK BELOW|VERTICAL LINE ABOVE|VERTICAL LINE BELOW|VERTICAL TILDE",
     "X ABOVE"]),
   ("WHITE ",
    ["BULLET|CHESS BISHOP|CHESS KING|CHESS KNIGHT|CHESS PAWN|CHESS QUEEN|CHESS ROOK|CIRCLE",
     "CIRCLE WITH DOT RIGHT|CIRCLE WITH LOWER LEFT QUADRANT|CIRCLE WITH LOWER RIGHT QUADRANT",
     "CIRCLE WITH TWO DOTS|CIRCLE WITH UPPER LEFT QUADRANT|CIRCLE WITH UPPER RIGHT QUADRANT",
     "CLUB SUIT|CONCAVE-SIDED DIAMOND|CONCAVE-SIDED DIAMOND WITH LEFTWARDS TICK",
     "CONCAVE-SIDED DIAMOND WITH RIGHTWARDS TICK|DIAMOND|DIAMOND CONTAINING BLACK SMALL DIAMOND",
     "DIAMOND IN SQUARE|DIAMOND SUIT|DIAMOND WITH CENTRED DOT|DOWN POINTING BACKHAND INDEX",
     "DOWN POINTING INDEX|DOWN POINTING LEFT HAND INDEX|DOWN-POINTING SMALL TRIANGLE",
     "DOWN-POINTING TRIANGLE|DRAUGHTS KING|DRAUGHTS MAN|EXCLAMATION MARK ORNAMENT|FLAG",
     "FLAG WITH HORIZONTAL MIDDLE BLACK STRIPE|FLORETTE|FLOWER|FOUR POINTED STAR|FROWNING FACE",
     "HARD SHELL FLOPPY DISK|HEART|HEART SUIT|HEAVY CHECK MARK|HEXAGON|HORIZONTAL ELLIPSE",
     "LARGE SQUARE|LATIN CROSS|LEFT LANE MERGE|LEFT POINTING BACKHAND INDEX|LEFT POINTING INDEX",
     "LEFT-POINTING POINTER|LEFT-POINTING SMALL TRIANGLE|LEFT-POINTING TRIANGLE|MEDIUM DIAMOND",
     "MEDIUM LOZENGE|MEDIUM SMALL SQUARE|MEDIUM SQUARE|MEDIUM STAR|NIB|PARALLELOGRAM|PENNANT",
     "PENTAGON|QUESTION MARK ORNAMENT|RECTANGLE|RIGHT POINTING BACKHAND INDEX",
     "RIGHT POINTING INDEX|RIGHT-POINTING PENTAGON|RIGHT-POINTING POINTER",
     "RIGHT-POINTING SMALL TRIANGLE|RIGHT-POINTING TRIANGLE|SCISSORS|SHOGI PIECE|SMALL LOZENGE",
     "SMALL SQUARE|SMALL STAR|SMILING FACE|SPADE SUIT|SQUARE|SQUARE BUTTON",
     "SQUARE CONTAINING BLACK SMALL SQUARE|SQUARE WITH LEFTWARDS TICK",
     "SQUARE WITH LOWER LEFT QUADRANT|SQUARE WITH LOWER RIGHT QUADRANT",
     "SQUARE WITH RIGHTWARDS TICK|SQUARE WITH ROUNDED CORNERS|SQUARE WITH UPPER LEFT QUADRANT",
     "SQUARE WITH UPPER RIGHT QUADRANT|SQUARE WITH VERTICAL BISECTING LINE|STAR|SUN",
     "SUN BEHIND CLOUD|SUN BEHIND CLOUD WITH RAIN|SUN WITH RAYS|SUN WITH SMALL CLOUD|TELEPHONE",
     "TOUCHTONE TELEPHONE|TRIANGLE CONTAINING SMALL WHITE TRIANGLE|TWO-WAY LEFT WAY TRAFFIC",
     "UP POINTING BACKHAND INDEX|UP POINTING INDEX|UP-POINTING SMALL TRIANGLE",
     "UP-POINTING TRIANGLE|UP-POINTING TRIANGLE WITH DOT|VERTICAL ELLIPSE|VERTICAL RECTANGLE",
     "VERY SMALL SQUARE"]),
   ("BLACK ",
    ["CENTRE WHITE STAR|CHESS BISHOP|CHESS KING|CHESS KNIGHT|CHESS PAWN|CHESS QUEEN|CHESS ROOK",
     "CIRCLE|CIRCLE WITH TWO WHITE DOTS|CIRCLE WITH WHITE DOT RIGHT|CLUB SUIT|CROSS ON SHIELD",
     "DIAMOND|DIAMOND MINUS WHITE X|DIAMOND SUIT|DOWN POINTING BACKHAND INDEX",
     "DOWN-POINTING SMALL TRIANGLE|DOWN-POINTING TRIANGLE|DRAUGHTS KING|DRAUGHTS MAN|DROPLET",
     "FLAG|FLORETTE|FOLDER|FOUR POINTED STAR|HARD SHELL FLOPPY DISK|HEART|HEART SUIT|HEXAGON",
     "HORIZONTAL ELLIPSE|LARGE CIRCLE|LARGE SQUARE|LEFT LANE MERGE|LEFT POINTING BACKHAND INDEX",
     "LEFT POINTING INDEX|LEFT-POINTING POINTER|LEFT-POINTING SMALL TRIANGLE",
     "LEFT-POINTING TRIANGLE|LEFTWARDS BULLET|LOWER LEFT TRIANGLE|LOWER RIGHT TRIANGLE",
     "MEDIUM DIAMOND|MEDIUM LOZENGE|MEDIUM SMALL SQUARE|MEDIUM SQUARE|MOON LILITH|NIB",
     "PARALLELOGRAM|PENNANT|PENTAGON|PUSHPIN|QUESTION MARK ORNAMENT|RECTANGLE",
     "RIGHT POINTING BACKHAND INDEX|RIGHT POINTING INDEX|RIGHT-POINTING PENTAGON",
     "RIGHT-POINTING POINTER|RIGHT-POINTING SMALL TRIANGLE|RIGHT-POINTING TRIANGLE",
     "RIGHTWARDS ARROW|RIGHTWARDS ARROWHEAD|RIGHTWARDS BULLET|ROSETTE|SAFETY SCISSORS|SCISSORS",
     "SHOGI PIECE|SKULL AND CROSSBONES|SMALL DIAMOND|SMALL LOZENGE|SMALL SQUARE|SMALL STAR",
     "SMILING FACE|SNOWMAN|SPADE SUIT|SQUARE|SQUARE BUTTON|STAR|SUN WITH RAYS|TELEPHONE",
     "TOUCHTONE TELEPHONE|TRUCK|TWO-WAY LEFT WAY TRAFFIC|UNIVERSAL RECYCLING SYMBOL",
     "UP POINTING BACKHAND INDEX|UP-POINTING SMALL TRIANGLE|UP-POINTING TRIANGLE",
     "UPPER LEFT TRIANGLE|UPPER RIGHT TRIANGLE|VERTICAL ELLIPSE|VERTICAL RECTANGLE",
     "VERY SMALL SQUARE"]),
   ("DINGBAT NEGATIVE CIRCLED ",
    ["DIGIT EIGHT|DIGIT FIVE|DIGIT FOUR|DIGIT NINE|DIGIT ONE|DIGIT SEVEN|DIGIT SIX|DIGIT THREE",
     "DIGIT TWO|NUMBER TEN|SANS-SERIF DIGIT EIGHT|SANS-SERIF DIGIT FIVE|SANS-SERIF DIGIT FOUR",
     "SANS-SERIF DIGIT NINE|SANS-SERIF DIGIT ONE|SANS-SERIF DIGIT SEVEN|SANS-SERIF DIGIT SIX",
     "SANS-SERIF DIGIT THREE|SANS-SERIF DIGIT TWO|SANS-SERIF NUMBER TEN"]),
   ("LEFTWARDS ",
    ["ARROW|ARROW ABOVE ALMOST EQUAL TO|ARROW ABOVE REVERSE ALMOST EQUAL TO",
     "ARROW ABOVE REVERSE TILDE OPERATOR|ARROW FROM BAR|ARROW OVER RIGHTWARDS ARROW",
     "ARROW THROUGH X|ARROW TO BAR|ARROW TO BAR OVER RIGHTWARDS ARROW TO BAR",
     "ARROW WITH DOTTED STEM|ARROW WITH DOUBLE VERTICAL STROKE|ARROW WITH HOOK|ARROW WITH LOOP",
     "ARROW WITH STROKE|ARROW WITH TAIL|ARROW WITH TAIL WITH DOUBLE VERTICAL STROKE",
     "ARROW WITH TAIL WITH VERTICAL STROKE|ARROW WITH TIP DOWNWARDS|ARROW WITH TIP UPWARDS",
     "ARROW WITH VERTICAL STROKE|BLACK ARROW|DASHED ARROW|DOUBLE ARROW|DOUBLE ARROW WITH STROKE",
     "HARPOON OVER RIGHTWARDS HARPOON|HARPOON WITH BARB DOWNWARDS|HARPOON WITH BARB UPWARDS",
     "OPEN-HEADED ARROW|PAIRED ARROWS|QUADRUPLE ARROW|SQUIGGLE ARROW|TRIPLE ARROW",
     "TWO HEADED ARROW|TWO-HEADED ARROW FROM BAR|TWO-HEADED ARROW WITH DOUBLE VERTICAL STROKE",
     "TWO-HEADED ARROW WITH TAIL|TWO-HEADED ARROW WITH TAIL WITH DOUBLE VERTICAL STROKE",
     "TWO-HEADED ARROW WITH TAIL WITH VERTICAL STROKE|TWO-HEADED ARROW WITH VERTICAL STROKE",
     "TWO-HEADED TRIPLE DASH ARROW|WAVE ARROW|WHITE ARROW"]),
   ("HEBREW LETTER ",
    ["ALEF|AYIN|BET|DALET|FINAL KAF|FINAL MEM|FINAL NUN|FINAL PE|FINAL TSADI|GIMEL|HE|HET|KAF",
     "LAMED|MEM|NUN|PE|QOF|RESH|SAMEKH|SHIN|TAV|TET|TSADI|VAV|YOD|ZAYIN"]),
   ("LATIN SUBSCRIPT SMALL LETTER ",
    ["A|E|H|K|L|M|N|O|P|S|SCHWA|T|X"]),
   ("HEAVY ",
    ["ASTERISK|BALLOT X|BLACK CURVED DOWNWARDS AND RIGHTWARDS ARROW",
     "BLACK CURVED UPWARDS AND RIGHTWARDS ARROW|BLACK HEART|BLACK-FEATHERED NORTH EAST ARROW",
     "BLACK-FEATHERED RIGHTWARDS ARROW|BLACK-FEATHERED SOUTH EAST ARROW|CHECK MARK",
     "CHEVRON SNOWFLAKE|CIRCLE|CIRCLE WITH CIRCLE INSIDE|CIRCLE WITH STROKE AND TWO DOTS ABOVE",
     "CIRCLED SALTIRE|CONCAVE-POINTED BLACK RIGHTWARDS ARROW",
     "DASHED TRIANGLE-HEADED RIGHTWARDS ARROW|DIVISION SIGN|DOLLAR SIGN",
     "DOUBLE COMMA QUOTATION MARK ORNAMENT|DOUBLE TURNED COMMA QUOTATION MARK ORNAMENT",
     "EIGHT POINTED RECTILINEAR BLACK STAR|EIGHT TEARDROP-SPOKED PROPELLER ASTERISK",
     "EXCLAMATION MARK ORNAMENT|EXCLAMATION MARK SYMBOL|FOUR BALLOON-SPOKED ASTERISK|GREEK CROSS",
     "HEART EXCLAMATION MARK ORNAMENT|LARGE CIRCLE|LATIN CROSS",
     "LEFT-POINTING ANGLE BRACKET ORNAMENT|LEFT-POINTING ANGLE QUOTATION MARK ORNAMENT",
     "LOW DOUBLE COMMA QUOTATION MARK ORNAMENT|LOW SINGLE COMMA QUOTATION MARK ORNAMENT",
     "LOWER RIGHT-SHADOWED WHITE RIGHTWARDS ARROW|MINUS SIGN|MULTIPLICATION X|NORTH EAST ARROW",
     "OPEN CENTRE CROSS|OUTLINED BLACK STAR|OVAL WITH OVAL INSIDE|PLUS SIGN",
     "RIGHT-POINTING ANGLE BRACKET ORNAMENT|RIGHT-POINTING ANGLE QUOTATION MARK ORNAMENT",
     "RIGHTWARDS ARROW|ROUND-TIPPED RIGHTWARDS ARROW|SINGLE COMMA QUOTATION MARK ORNAMENT",
     "SINGLE TURNED COMMA QUOTATION MARK ORNAMENT|SOUTH EAST ARROW|SPARKLE",
     "TEARDROP-SHANKED RIGHTWARDS ARROW|TEARDROP-SPOKED ASTERISK",
     "TEARDROP-SPOKED PINWHEEL ASTERISK|TRIANGLE-HEADED RIGHTWARDS ARROW",
     "UPPER RIGHT-SHADOWED WHITE RIGHTWARDS ARROW|VERTICAL BAR|WEDGE-TAILED RIGHTWARDS ARROW",
     "WHITE DOWN-POINTING TRIANGLE|WIDE-HEADED RIGHTWARDS ARROW"]),
   ("RIGHTWARDS ",
    ["ARROW|ARROW ABOVE REVERSE ALMOST EQUAL TO|ARROW ABOVE REVERSE TILDE OPERATOR",
     "ARROW FROM BAR|ARROW OVER LEFTWARDS ARROW|ARROW THROUGH GREATER-THAN",
     "ARROW THROUGH SUPERSET|ARROW TO BAR|ARROW WITH CORNER DOWNWARDS",
     "ARROW WITH DOUBLE VERTICAL STROKE|ARROW WITH HOOK|ARROW WITH LOOP|ARROW WITH STROKE",
     "ARROW WITH TAIL|ARROW WITH TIP DOWNWARDS|ARROW WITH TIP UPWARDS|ARROW WITH VERTICAL STROKE",
     "DASHED ARROW|DOUBLE ARROW|DOUBLE ARROW WITH STROKE|HARPOON OVER LEFTWARDS HARPOON",
     "HARPOON WITH BARB DOWNWARDS|HARPOON WITH BARB UPWARDS|OPEN-HEADED ARROW|PAIRED ARROWS",
     "QUADRUPLE ARROW|SQUIGGLE ARROW|TRIPLE ARROW|TWO HEADED ARROW|WAVE ARROW|WHITE ARROW",
     "WHITE ARROW FROM WALL"]),
   ("ROMAN NUMERAL ",
    ["EIGHT|ELEVEN|FIFTY|FIFTY EARLY FORM|FIFTY THOUSAND|FIVE|FIVE HUNDRED|FIVE THOUSAND|FOUR",
     "NINE|ONE|ONE HUNDRED|ONE HUNDRED THOUSAND|ONE THOUSAND|ONE THOUSAND C D",
     "REVERSED ONE HUNDRED|SEVEN|SIX|SIX LATE FORM|TEN|TEN THOUSAND|THREE|TWELVE|TWO"]),
   ("SMALL ROMAN NUMERAL ",
    ["EIGHT|ELEVEN|FIFTY|FIVE|FIVE HUNDRED|FOUR|NINE|ONE|ONE HUNDRED|ONE THOUSAND|SEVEN|SIX|TEN",
     "THREE|TWELVE|TWO"]),
   ("VULGAR FRACTION ",
    ["FIVE EIGHTHS|FIVE SIXTHS|FOUR FIFTHS|ONE EIGHTH|ONE FIFTH|ONE HALF|ONE NINTH|ONE QUARTER",
     "ONE SEVENTH|ONE SIXTH|ONE TENTH|ONE THIRD|SEVEN EIGHTHS|THREE EIGHTHS|THREE FIFTHS",
     "THREE QUARTERS|TWO FIFTHS|TWO THIRDS|ZERO THIRDS"]),
   ("LEFT ",
    ["AND RIGHT DOUBLE TURNSTILE|AND RIGHT TACK|ANGER BUBBLE|ANGLE BRACKET",
     "ARROW WITH CIRCLED PLUS|ARROW WITH SMALL CIRCLE|BLACK LENTICULAR BRACKET|CEILING",
     "CLOSED ENTRY|CORNER BRACKET|CURLY BRACKET|DOUBLE ANGLE BRACKET|DOUBLE QUOTATION MARK",
     "FIVE EIGHTHS BLOCK|FLOOR|HALF BLACK CIRCLE|HALF BLOCK|HALF CIRCLE|HALF CIRCLE WITH DOT",
     "HALF CIRCLE WITH FOUR DOTS|HALF CIRCLE WITH THREE DOTS|HALF CIRCLE WITH TWO DOTS",
     "HAND TELEPHONE RECEIVER|LUGGAGE|MULTIMAP|NORMAL FACTOR SEMIDIRECT PRODUCT|ONE EIGHTH BLOCK",
     "ONE QUARTER BLOCK|OUTER JOIN|PARENTHESIS|RIGHT ARROW",
     "RIGHT ARROW WITH DOUBLE VERTICAL STROKE|RIGHT ARROW WITH STROKE",
     "RIGHT ARROW WITH VERTICAL STROKE|RIGHT BLACK ARROW|RIGHT DOUBLE ARROW",
     "RIGHT DOUBLE ARROW WITH STROKE|RIGHT OPEN-HEADED ARROW|RIGHT WAVE ARROW|RIGHT WHITE ARROW",
     "S-SHAPED BAG DELIMITER|SEMIDIRECT PRODUCT|SEVEN EIGHTHS BLOCK|SINGLE QUOTATION MARK",
     "SPEECH BUBBLE|SQUARE BRACKET|SQUARE BRACKET WITH QUILL|TACK|THOUGHT BUBBLE",
     "THREE EIGHTHS BLOCK|THREE QUARTERS BLOCK|TORTOISE SHELL BRACKET|WHITE CORNER BRACKET",
     "WHITE LENTICULAR BRACKET|WHITE SQUARE BRACKET|WHITE TORTOISE SHELL BRACKET|WRITING HAND"]),
   ("DINGBAT CIRCLED SANS-SERIF DIGIT ",
    ["EIGHT|FIVE|FOUR|NINE|ONE|SEVEN|SIX|THREE|TWO"]),
   ("CLOCK FACE ",
    ["EIGHT OCLOCK|EIGHT-THIRTY|ELEVEN OCLOCK|ELEVEN-THIRTY|FIVE OCLOCK|FIVE-THIRTY|FOUR OCLOCK",
     "FOUR-THIRTY|NINE OCLOCK|NINE-THIRTY|ONE OCLOCK|ONE-THIRTY|SEVEN OCLOCK|SEVEN-THIRTY",
     "SIX OCLOCK|SIX-THIRTY|TEN OCLOCK|TEN-THIRTY|THREE OCLOCK|THREE-THIRTY|TWELVE OCLOCK",
     "TWELVE-THIRTY|TWO OCLOCK|TWO-THIRTY"]),
   ("DOUBLE-STRUCK ",
    ["CAPITAL C|CAPITAL GAMMA|CAPITAL H|CAPITAL N|CAPITAL P|CAPITAL PI|CAPITAL Q|CAPITAL R",
     "CAPITAL Z|ITALIC CAPITAL D|ITALIC SMALL D|ITALIC SMALL E|ITALIC SMALL I|ITALIC SMALL J",
     "N-ARY SUMMATION|SMALL GAMMA|SMALL PI"]),
   ("RIGHT ",
    ["ANGER BUBBLE|ANGLE|ANGLE BRACKET|ANGLE WITH ARC|ARROW WITH CIRCLED PLUS",
     "ARROW WITH SMALL CIRCLE|BLACK LENTICULAR BRACKET|CEILING|CORNER BRACKET|CURLY BRACKET",
     "DOUBLE ANGLE BRACKET|DOUBLE QUOTATION MARK|FLOOR|HALF BLACK CIRCLE|HALF BLOCK",
     "HAND TELEPHONE RECEIVER|NORMAL FACTOR SEMIDIRECT PRODUCT|ONE EIGHTH BLOCK|OUTER JOIN",
     "PARENTHESIS|S-SHAPED BAG DELIMITER|SEMIDIRECT PRODUCT|SINGLE QUOTATION MARK|SPEAKER",
     "SPEAKER WITH ONE SOUND WAVE|SPEAKER WITH THREE SOUND WAVES|SPEECH BUBBLE|SQUARE BRACKET",
     "SQUARE BRACKET WITH QUILL|TACK|THOUGHT BUBBLE|TORTOISE SHELL BRACKET|TRIANGLE",
     "WHITE CORNER BRACKET|WHITE LENTICULAR BRACKET|WHITE SQUARE BRACKET",
     "WHITE TORTOISE SHELL BRACKET"]),
   ("GREEK ",
    ["ANO TELEIA|BETA SYMBOL|CAPITAL DOTTED LUNATE SIGMA SYMBOL|CAPITAL KAI SYMBOL",
     "CAPITAL LUNATE SIGMA SYMBOL|CAPITAL REVERSED DOTTED LUNATE SIGMA SYMBOL",
     "CAPITAL REVERSED LUNATE SIGMA SYMBOL|CAPITAL THETA SYMBOL|DIALYTIKA TONOS|KAI SYMBOL",
     "KAPPA SYMBOL|LETTER ARCHAIC KOPPA|LETTER DIGAMMA|LETTER KOPPA|LETTER SAMPI|LETTER STIGMA",
     "LETTER YOT|LOWER NUMERAL SIGN|LUNATE EPSILON SYMBOL|LUNATE SIGMA SYMBOL|NUMERAL SIGN",
     "PHI SYMBOL|PI SYMBOL|QUESTION MARK|REVERSED LUNATE EPSILON SYMBOL|RHO SYMBOL",
     "RHO WITH STROKE SYMBOL|SMALL DOTTED LUNATE SIGMA SYMBOL",
     "SMALL REVERSED DOTTED LUNATE SIGMA SYMBOL|SMALL REVERSED LUNATE SIGMA SYMBOL|THETA SYMBOL",
     "TONOS|UPSILON WITH ACUTE AND HOOK SYMBOL|UPSILON WITH DIAERESIS AND HOOK SYMBOL",
     "UPSILON WITH HOOK SYMBOL|YPOGEGRAMMENI"]),
   ("FACE WITH ",
    ["COLD SWEAT|COWBOY HAT|FINGER COVERING CLOSED LIPS|HEAD-BANDAGE|LOOK OF TRIUMPH",
     "MEDICAL MASK|MONOCLE|NO GOOD GESTURE|OK GESTURE|ONE EYEBROW RAISED|OPEN MOUTH",
     "OPEN MOUTH AND COLD SWEAT|OPEN MOUTH VOMITING|PARTY HORN AND PARTY HAT|PLEADING EYES",
     "ROLLING EYES|STUCK-OUT TONGUE|STUCK-OUT TONGUE AND TIGHTLY-CLOSED EYES",
     "STUCK-OUT TONGUE AND WINKING EYE|TEARS OF JOY|THERMOMETER|UNEVEN EYES AND WAVY MOUTH"]),
   ("SMILING FACE WITH ",
    ["HALO|HEART-SHAPED EYES|HORNS|OPEN MOUTH|OPEN MOUTH AND COLD SWEAT",
     "OPEN MOUTH AND SMILING EYES|OPEN MOUTH AND TIGHTLY-CLOSED EYES|SMILING EYES",
     "SMILING EYES AND HAND COVERING MOUTH|SMILING EYES AND THREE HEARTS|SUNGLASSES|TEAR"]),
   ("SUPERSCRIPT ",
    ["EIGHT|EQUALS SIGN|FIVE|FOUR|LATIN SMALL LETTER I|LATIN SMALL LETTER N|LEFT PARENTHESIS",
     "MINUS|NINE|ONE|PLUS SIGN|RIGHT PARENTHESIS|SEVEN|SIX|THREE|TWO|ZERO"]),
   ("HANGZHOU NUMERAL ",
    ["EIGHT|FIVE|FOUR|NINE|ONE|SEVEN|SIX|TEN|THIRTY|THREE|TWENTY|TWO"]),
   ("DOWNWARDS ",
    ["ARROW|ARROW FROM BAR|ARROW LEFTWARDS OF UPWARDS ARROW|ARROW WITH CORNER LEFTWARDS",
     "ARROW WITH DOUBLE STROKE|ARROW WITH TIP LEFTWARDS|ARROW WITH TIP RIGHTWARDS|BLACK ARROW",
     "DASHED ARROW|DOUBLE ARROW|HARPOON WITH BARB LEFTWARDS|HARPOON WITH BARB RIGHTWARDS",
     "PAIRED ARROWS|QUADRUPLE ARROW|TRIANGLE-HEADED ZIGZAG ARROW|TWO HEADED ARROW|WHITE ARROW",
     "ZIGZAG ARROW"]),
   ("LATIN SMALL LIGATURE ",
    ["FF|FFI|FFL|FI|FL|IJ|LONG S T|OE|ST"]),
   ("SQUARE ",
    ["CAP|CUP|FOUR CORNERS|IMAGE OF|IMAGE OF OR EQUAL TO|IMAGE OF OR NOT EQUAL TO|LOZENGE",
     "ORIGINAL OF|ORIGINAL OF OR EQUAL TO|ORIGINAL OF OR NOT EQUAL TO|ROOT",
     "WITH BOTTOM HALF BLACK|WITH DIAGONAL CROSSHATCH FILL|WITH HORIZONTAL FILL",
     "WITH LEFT HALF BLACK|WITH LOWER LEFT DIAGONAL HALF BLACK",
     "WITH LOWER RIGHT DIAGONAL HALF BLACK|WITH ORTHOGONAL CROSSHATCH FILL|WITH RIGHT HALF BLACK",
     "WITH TOP HALF BLACK|WITH UPPER LEFT DIAGONAL HALF BLACK",
     "WITH UPPER LEFT TO LOWER RIGHT FILL|WITH UPPER RIGHT DIAGONAL HALF BLACK",
     "WITH UPPER RIGHT TO LOWER LEFT FILL|WITH VERTICAL FILL"]),
   ("UPWARDS ",
    ["ARROW|ARROW FROM BAR|ARROW LEFTWARDS OF DOWNWARDS ARROW|ARROW WITH DOUBLE STROKE",
     "ARROW WITH TIP LEFTWARDS|ARROW WITH TIP RIGHTWARDS|BLACK ARROW|DASHED ARROW|DOUBLE ARROW",
     "HARPOON WITH BARB LEFTWARDS|HARPOON WITH BARB RIGHTWARDS|PAIRED ARROWS|QUADRUPLE ARROW",
     "TWO HEADED ARROW|WHITE ARROW|WHITE ARROW FROM BAR|WHITE ARROW ON PEDESTAL",
     "WHITE ARROW ON PEDESTAL WITH HORIZONTAL BAR|WHITE ARROW ON PEDESTAL WITH VERTICAL BAR",
     "WHITE DOUBLE ARROW|WHITE DOUBLE ARROW ON PEDESTAL"]),
   ("VARIATION ",
    ["SELECTOR-1|SELECTOR-10|SELECTOR-11|SELECTOR-12|SELECTOR-13|SELECTOR-14|SELECTOR-15",
     "SELECTOR-16|SELECTOR-2|SELECTOR-3|SELECTOR-4|SELECTOR-5|SELECTOR-6|SELECTOR-7|SELECTOR-8",
     "SELECTOR-9"]),
   ("",
    ["SPACE|EXCLAMATION MARK|QUOTATION MARK|NUMBER SIGN|DOLLAR SIGN|PERCENT SIGN|AMPERSAND",
     "APOSTROPHE|ASTERISK|PLUS SIGN|COMMA|HYPHEN-MINUS|FULL STOP|SOLIDUS|DIGIT ZERO|DIGIT ONE",
     "DIGIT TWO|DIGIT THREE|DIGIT FOUR|DIGIT FIVE|DIGIT SIX|DIGIT SEVEN|DIGIT EIGHT|DIGIT NINE",
     "COLON|SEMICOLON|LESS-THAN SIGN|EQUALS SIGN|GREATER-THAN SIGN|QUESTION MARK|COMMERCIAL AT",
     "REVERSE SOLIDUS|CIRCUMFLEX ACCENT|LOW LINE|GRAVE ACCENT|VERTICAL LINE|TILDE|NO-BREAK SPACE",
     "INVERTED EXCLAMATION MARK|CENT SIGN|POUND SIGN|CURRENCY SIGN|YEN SIGN|BROKEN BAR",
     "SECTION SIGN|DIAERESIS|COPYRIGHT SIGN|FEMININE ORDINAL INDICATOR",
     "LEFT-POINTING DOUBLE ANGLE QUOTATION MARK|NOT SIGN|SOFT HYPHEN|REGISTERED SIGN|MACRON",
     "DEGREE SIGN|PLUS-MINUS SIGN|ACUTE ACCENT|MICRO SIGN|PILCROW SIGN|MIDDLE DOT|CEDILLA",
     "MASCULINE ORDINAL INDICATOR|RIGHT-POINTING DOUBLE ANGLE QUOTATION MARK",
     "INVERTED QUESTION MARK|MULTIPLICATION SIGN|DIVISION SIGN|LATIN CAPITAL LIGATURE IJ",
     "LATIN CAPITAL LIGATURE OE|COPTIC CAPITAL LETTER SHEI|COPTIC SMALL LETTER SHEI",
     "COPTIC CAPITAL LETTER FEI|COPTIC SMALL LETTER FEI|COPTIC CAPITAL LETTER KHEI",
     "COPTIC SMALL LETTER KHEI|COPTIC CAPITAL LETTER HORI|COPTIC SMALL LETTER HORI",
     "COPTIC CAPITAL LETTER GANGIA|COPTIC SMALL LETTER GANGIA|COPTIC CAPITAL LETTER SHIMA",
     "COPTIC SMALL LETTER SHIMA|COPTIC CAPITAL LETTER DEI|COPTIC SMALL LETTER DEI|EN QUAD",
     "EM QUAD|EN SPACE|EM SPACE|THREE-PER-EM SPACE|FOUR-PER-EM SPACE|SIX-PER-EM SPACE",
     "FIGURE SPACE|PUNCTUATION SPACE|THIN SPACE|HAIR SPACE|ZERO WIDTH SPACE",
     "ZERO WIDTH NON-JOINER|ZERO WIDTH JOINER|LEFT-TO-RIGHT MARK|RIGHT-TO-LEFT MARK|HYPHEN",
     "NON-BREAKING HYPHEN|FIGURE DASH|EN DASH|EM DASH|HORIZONTAL BAR|DOUBLE VERTICAL LINE",
     "DOUBLE LOW LINE|SINGLE LOW-9 QUOTATION MARK|SINGLE HIGH-REVERSED-9 QUOTATION MARK",
     "DOUBLE LOW-9 QUOTATION MARK|DOUBLE HIGH-REVERSED-9 QUOTATION MARK|DAGGER|DOUBLE DAGGER",
     "BULLET|TRIANGULAR BULLET|ONE DOT LEADER|TWO DOT LEADER|HORIZONTAL ELLIPSIS",
     "HYPHENATION POINT|LINE SEPARATOR|PARAGRAPH SEPARATOR|LEFT-TO-RIGHT EMBEDDING",
     "RIGHT-TO-LEFT EMBEDDING|POP DIRECTIONAL FORMATTING|LEFT-TO-RIGHT OVERRIDE",
     "RIGHT-TO-LEFT OVERRIDE|NARROW NO-BREAK SPACE|PER MILLE SIGN|PER TEN THOUSAND SIGN|PRIME",
     "DOUBLE PRIME|TRIPLE PRIME|REVERSED PRIME|REVERSED DOUBLE PRIME|REVERSED TRIPLE PRIME|CARET",
     "SINGLE LEFT-POINTING ANGLE QUOTATION MARK|SINGLE RIGHT-POINTING ANGLE QUOTATION MARK",
     "REFERENCE MARK|DOUBLE EXCLAMATION MARK|INTERROBANG|OVERLINE|UNDERTIE|CHARACTER TIE",
     "CARET INSERTION POINT|ASTERISM|HYPHEN BULLET|FRACTION SLASH|DOUBLE QUESTION MARK",
     "QUESTION EXCLAMATION MARK|EXCLAMATION QUESTION MARK|TIRONIAN SIGN ET|REVERSED PILCROW SIGN",
     "LOW ASTERISK|REVERSED SEMICOLON|CLOSE UP|TWO ASTERISKS ALIGNED VERTICALLY",
     "COMMERCIAL MINUS SIGN|SWUNG DASH|INVERTED UNDERTIE|FLOWER PUNCTUATION MARK",
     "THREE DOT PUNCTUATION|QUADRUPLE PRIME|FOUR DOT PUNCTUATION|FIVE DOT PUNCTUATION",
     "TWO DOT PUNCTUATION|FOUR DOT MARK|DOTTED CROSS|TRICOLON|VERTICAL FOUR DOTS",
     "MEDIUM MATHEMATICAL SPACE|WORD JOINER|FUNCTION APPLICATION|INVISIBLE TIMES",
     "INVISIBLE SEPARATOR|INVISIBLE PLUS|LEFT-TO-RIGHT ISOLATE|RIGHT-TO-LEFT ISOLATE",
     "FIRST STRONG ISOLATE|POP DIRECTIONAL ISOLATE|INHIBIT SYMMETRIC SWAPPING",
     "ACTIVATE SYMMETRIC SWAPPING|INHIBIT ARABIC FORM SHAPING|ACTIVATE ARABIC FORM SHAPING",
     "NATIONAL DIGIT SHAPES|NOMINAL DIGIT SHAPES|SUBSCRIPT ZERO|SUBSCRIPT ONE|SUBSCRIPT TWO",
     "SUBSCRIPT THREE|SUBSCRIPT FOUR|SUBSCRIPT FIVE|SUBSCRIPT SIX|SUBSCRIPT SEVEN",
     "SUBSCRIPT EIGHT|SUBSCRIPT NINE|SUBSCRIPT PLUS SIGN|SUBSCRIPT MINUS|SUBSCRIPT EQUALS SIGN",
     "SUBSCRIPT LEFT PARENTHESIS|SUBSCRIPT RIGHT PARENTHESIS|EURO-CURRENCY SIGN|COLON SIGN",
     "CRUZEIRO SIGN|FRENCH FRANC SIGN|LIRA SIGN|MILL SIGN|NAIRA SIGN|PESETA SIGN|RUPEE SIGN",
     "WON SIGN|NEW SHEQEL SIGN|DONG SIGN|EURO SIGN|KIP SIGN|TUGRIK SIGN|DRACHMA SIGN",
     "GERMAN PENNY SIGN|PESO SIGN|GUARANI SIGN|AUSTRAL SIGN|HRYVNIA SIGN|CEDI SIGN",
     "LIVRE TOURNOIS SIGN|SPESMILO SIGN|TENGE SIGN|INDIAN RUPEE SIGN|TURKISH LIRA SIGN",
     "NORDIC MARK SIGN|MANAT SIGN|RUBLE SIGN|LARI SIGN|BITCOIN SIGN|SOM SIGN|ACCOUNT OF",
     "ADDRESSED TO THE SUBJECT|DEGREE CELSIUS|CENTRE LINE SYMBOL|CARE OF|CADA UNA|EULER CONSTANT",
     "SCRUPLE|DEGREE FAHRENHEIT|SCRIPT SMALL G|SCRIPT CAPITAL H|BLACK-LETTER CAPITAL H",
     "PLANCK CONSTANT|PLANCK CONSTANT OVER TWO PI|SCRIPT CAPITAL I|BLACK-LETTER CAPITAL I",
     "SCRIPT CAPITAL L|SCRIPT SMALL L|L B BAR SYMBOL|NUMERO SIGN|SOUND RECORDING COPYRIGHT",
     "SCRIPT CAPITAL P|SCRIPT CAPITAL R|BLACK-LETTER CAPITAL R|PRESCRIPTION TAKE|RESPONSE",
     "SERVICE MARK|TELEPHONE SIGN|TRADE MARK SIGN|VERSICLE|OUNCE SIGN|OHM SIGN|INVERTED OHM SIGN",
     "BLACK-LETTER CAPITAL Z|TURNED GREEK SMALL LETTER IOTA|KELVIN SIGN|ANGSTROM SIGN",
     "SCRIPT CAPITAL B|BLACK-LETTER CAPITAL C|ESTIMATED SYMBOL|SCRIPT SMALL E|SCRIPT CAPITAL E",
     "SCRIPT CAPITAL F|TURNED CAPITAL F|SCRIPT CAPITAL M|SCRIPT SMALL O|ALEF SYMBOL|BET SYMBOL",
     "GIMEL SYMBOL|DALET SYMBOL|INFORMATION SOURCE|ROTATED CAPITAL Q|FACSIMILE SIGN",
     "TURNED SANS-SERIF CAPITAL G|TURNED SANS-SERIF CAPITAL L|REVERSED SANS-SERIF CAPITAL L",
     "TURNED SANS-SERIF CAPITAL Y|PROPERTY LINE|TURNED AMPERSAND|PER SIGN|AKTIESELSKAB",
     "TURNED SMALL F|SYMBOL FOR SAMARITAN SOURCE|FRACTION NUMERATOR ONE|TURNED DIGIT TWO",
     "TURNED DIGIT THREE|UP DOWN ARROW|NORTH WEST ARROW|NORTH EAST ARROW|SOUTH EAST ARROW",
     "SOUTH WEST ARROW|UP DOWN ARROW WITH BASE|ANTICLOCKWISE TOP SEMICIRCLE ARROW",
     "CLOCKWISE TOP SEMICIRCLE ARROW|NORTH WEST ARROW TO LONG BAR",
     "ANTICLOCKWISE OPEN CIRCLE ARROW|CLOCKWISE OPEN CIRCLE ARROW|UP DOWN DOUBLE ARROW",
     "NORTH WEST DOUBLE ARROW|NORTH EAST DOUBLE ARROW|SOUTH EAST DOUBLE ARROW",
     "SOUTH WEST DOUBLE ARROW|NORTH WEST ARROW TO CORNER|SOUTH EAST ARROW TO CORNER",
     "UP DOWN WHITE ARROW|THREE RIGHTWARDS ARROWS|FOR ALL|COMPLEMENT|PARTIAL DIFFERENTIAL",
     "THERE EXISTS|THERE DOES NOT EXIST|EMPTY SET|INCREMENT|NABLA|ELEMENT OF|NOT AN ELEMENT OF",
     "SMALL ELEMENT OF|CONTAINS AS MEMBER|DOES NOT CONTAIN AS MEMBER|SMALL CONTAINS AS MEMBER",
     "END OF PROOF|N-ARY PRODUCT|N-ARY COPRODUCT|N-ARY SUMMATION|MINUS SIGN|MINUS-OR-PLUS SIGN",
     "DOT PLUS|DIVISION SLASH|SET MINUS|ASTERISK OPERATOR|RING OPERATOR|BULLET OPERATOR",
     "CUBE ROOT|FOURTH ROOT|PROPORTIONAL TO|INFINITY|ANGLE|MEASURED ANGLE|SPHERICAL ANGLE",
     "DIVIDES|DOES NOT DIVIDE|PARALLEL TO|NOT PARALLEL TO|LOGICAL AND|LOGICAL OR|INTERSECTION",
     "UNION|INTEGRAL|DOUBLE INTEGRAL|TRIPLE INTEGRAL|CONTOUR INTEGRAL|SURFACE INTEGRAL",
     "VOLUME INTEGRAL|CLOCKWISE INTEGRAL|CLOCKWISE CONTOUR INTEGRAL",
     "ANTICLOCKWISE CONTOUR INTEGRAL|THEREFORE|BECAUSE|RATIO|PROPORTION|DOT MINUS|EXCESS",
     "GEOMETRIC PROPORTION|HOMOTHETIC|TILDE OPERATOR|REVERSED TILDE|INVERTED LAZY S|SINE WAVE",
     "WREATH PRODUCT|NOT TILDE|MINUS TILDE|ASYMPTOTICALLY EQUAL TO|NOT ASYMPTOTICALLY EQUAL TO",
     "APPROXIMATELY EQUAL TO|APPROXIMATELY BUT NOT ACTUALLY EQUAL TO",
     "NEITHER APPROXIMATELY NOR ACTUALLY EQUAL TO|ALMOST EQUAL TO|NOT ALMOST EQUAL TO",
     "ALMOST EQUAL OR EQUAL TO|TRIPLE TILDE|ALL EQUAL TO|EQUIVALENT TO",
     "GEOMETRICALLY EQUIVALENT TO|DIFFERENCE BETWEEN|APPROACHES THE LIMIT|GEOMETRICALLY EQUAL TO",
     "APPROXIMATELY EQUAL TO OR THE IMAGE OF|IMAGE OF OR APPROXIMATELY EQUAL TO|COLON EQUALS",
     "EQUALS COLON|RING IN EQUAL TO|RING EQUAL TO|CORRESPONDS TO|ESTIMATES|EQUIANGULAR TO",
     "STAR EQUALS|DELTA EQUAL TO|EQUAL TO BY DEFINITION|MEASURED BY|QUESTIONED EQUAL TO",
     "NOT EQUAL TO|IDENTICAL TO|NOT IDENTICAL TO|STRICTLY EQUIVALENT TO|LESS-THAN OR EQUAL TO",
     "GREATER-THAN OR EQUAL TO|LESS-THAN OVER EQUAL TO|GREATER-THAN OVER EQUAL TO",
     "LESS-THAN BUT NOT EQUAL TO|GREATER-THAN BUT NOT EQUAL TO|MUCH LESS-THAN|MUCH GREATER-THAN",
     "BETWEEN|NOT EQUIVALENT TO|NOT LESS-THAN|NOT GREATER-THAN|NEITHER LESS-THAN NOR EQUAL TO",
     "NEITHER GREATER-THAN NOR EQUAL TO|LESS-THAN OR EQUIVALENT TO|GREATER-THAN OR EQUIVALENT TO",
     "NEITHER LESS-THAN NOR EQUIVALENT TO|NEITHER GREATER-THAN NOR EQUIVALENT TO",
     "LESS-THAN OR GREATER-THAN|GREATER-THAN OR LESS-THAN|NEITHER LESS-THAN NOR GREATER-THAN",
     "NEITHER GREATER-THAN NOR LESS-THAN|PRECEDES|SUCCEEDS|PRECEDES OR EQUAL TO",
     "SUCCEEDS OR EQUAL TO|PRECEDES OR EQUIVALENT TO|SUCCEEDS OR EQUIVALENT TO|DOES NOT PRECEDE",
     "DOES NOT SUCCEED|SUBSET OF|SUPERSET OF|NOT A SUBSET OF|NOT A SUPERSET OF",
     "SUBSET OF OR EQUAL TO|SUPERSET OF OR EQUAL TO|NEITHER A SUBSET OF NOR EQUAL TO",
     "NEITHER A SUPERSET OF NOR EQUAL TO|SUBSET OF WITH NOT EQUAL TO",
     "SUPERSET OF WITH NOT EQUAL TO|MULTISET|MULTISET MULTIPLICATION|MULTISET UNION|CIRCLED PLUS",
     "CIRCLED MINUS|CIRCLED TIMES|CIRCLED DIVISION SLASH|CIRCLED DOT OPERATOR",
     "CIRCLED RING OPERATOR|CIRCLED ASTERISK OPERATOR|CIRCLED EQUALS|CIRCLED DASH|SQUARED PLUS",
     "SQUARED MINUS|SQUARED TIMES|SQUARED DOT OPERATOR|DOWN TACK|UP TACK|ASSERTION|MODELS|TRUE",
     "FORCES|TRIPLE VERTICAL BAR RIGHT TURNSTILE|DOUBLE VERTICAL BAR DOUBLE RIGHT TURNSTILE",
     "DOES NOT PROVE|NOT TRUE|DOES NOT FORCE|NEGATED DOUBLE VERTICAL BAR DOUBLE RIGHT TURNSTILE",
     "PRECEDES UNDER RELATION|SUCCEEDS UNDER RELATION|NORMAL SUBGROUP OF",
     "CONTAINS AS NORMAL SUBGROUP|NORMAL SUBGROUP OF OR EQUAL TO",
     "CONTAINS AS NORMAL SUBGROUP OR EQUAL TO|ORIGINAL OF|IMAGE OF|MULTIMAP",
     "HERMITIAN CONJUGATE MATRIX|INTERCALATE|XOR|NAND|NOR|N-ARY LOGICAL AND|N-ARY LOGICAL OR",
     "N-ARY INTERSECTION|N-ARY UNION|DIAMOND OPERATOR|DOT OPERATOR|STAR OPERATOR|DIVISION TIMES",
     "BOWTIE|REVERSED TILDE EQUALS|CURLY LOGICAL OR|CURLY LOGICAL AND|DOUBLE SUBSET",
     "DOUBLE SUPERSET|DOUBLE INTERSECTION|DOUBLE UNION|PITCHFORK|EQUAL AND PARALLEL TO",
     "LESS-THAN WITH DOT|GREATER-THAN WITH DOT|VERY MUCH LESS-THAN|VERY MUCH GREATER-THAN",
     "LESS-THAN EQUAL TO OR GREATER-THAN|GREATER-THAN EQUAL TO OR LESS-THAN",
     "EQUAL TO OR LESS-THAN|EQUAL TO OR GREATER-THAN|EQUAL TO OR PRECEDES|EQUAL TO OR SUCCEEDS",
     "DOES NOT PRECEDE OR EQUAL|DOES NOT SUCCEED OR EQUAL|NOT SQUARE IMAGE OF OR EQUAL TO",
     "NOT SQUARE ORIGINAL OF OR EQUAL TO|LESS-THAN BUT NOT EQUIVALENT TO",
     "GREATER-THAN BUT NOT EQUIVALENT TO|PRECEDES BUT NOT EQUIVALENT TO",
     "SUCCEEDS BUT NOT EQUIVALENT TO|NOT NORMAL SUBGROUP OF|DOES NOT CONTAIN AS NORMAL SUBGROUP",
     "NOT NORMAL SUBGROUP OF OR EQUAL TO|DOES NOT CONTAIN AS NORMAL SUBGROUP OR EQUAL",
     "VERTICAL ELLIPSIS|MIDLINE HORIZONTAL ELLIPSIS|UP RIGHT DIAGONAL ELLIPSIS",
     "DOWN RIGHT DIAGONAL ELLIPSIS|ELEMENT OF WITH LONG HORIZONTAL STROKE",
     "ELEMENT OF WITH VERTICAL BAR AT END OF HORIZONTAL STROKE",
     "SMALL ELEMENT OF WITH VERTICAL BAR AT END OF HORIZONTAL STROKE|ELEMENT OF WITH DOT ABOVE",
     "ELEMENT OF WITH OVERBAR|SMALL ELEMENT OF WITH OVERBAR|ELEMENT OF WITH UNDERBAR",
     "ELEMENT OF WITH TWO HORIZONTAL STROKES|CONTAINS WITH LONG HORIZONTAL STROKE",
     "CONTAINS WITH VERTICAL BAR AT END OF HORIZONTAL STROKE",
     "SMALL CONTAINS WITH VERTICAL BAR AT END OF HORIZONTAL STROKE|CONTAINS WITH OVERBAR",
     "SMALL CONTAINS WITH OVERBAR|Z NOTATION BAG MEMBERSHIP|DIAMETER SIGN|ELECTRIC ARROW|HOUSE",
     "UP ARROWHEAD|DOWN ARROWHEAD|PROJECTIVE|PERSPECTIVE|WAVY LINE|BOTTOM RIGHT CROP",
     "BOTTOM LEFT CROP|TOP RIGHT CROP|TOP LEFT CROP|REVERSED NOT SIGN|ARC|SEGMENT|SECTOR",
     "TELEPHONE RECORDER|POSITION INDICATOR|VIEWDATA SQUARE|PLACE OF INTEREST SIGN",
     "TURNED NOT SIGN|WATCH|HOURGLASS|TOP LEFT CORNER|TOP RIGHT CORNER|BOTTOM LEFT CORNER",
     "BOTTOM RIGHT CORNER|TOP HALF INTEGRAL|BOTTOM HALF INTEGRAL|FROWN|SMILE",
     "UP ARROWHEAD BETWEEN TWO HORIZONTAL BARS|OPTION KEY|ERASE TO THE RIGHT",
     "X IN A RECTANGLE BOX|KEYBOARD|LEFT-POINTING ANGLE BRACKET|RIGHT-POINTING ANGLE BRACKET",
     "UPPER HALF BLOCK|LOWER ONE EIGHTH BLOCK|LOWER ONE QUARTER BLOCK|LOWER THREE EIGHTHS BLOCK",
     "LOWER HALF BLOCK|LOWER FIVE EIGHTHS BLOCK|LOWER THREE QUARTERS BLOCK",
     "LOWER SEVEN EIGHTHS BLOCK|FULL BLOCK|LIGHT SHADE|MEDIUM SHADE|DARK SHADE",
     "UPPER ONE EIGHTH BLOCK|QUADRANT LOWER LEFT|QUADRANT LOWER RIGHT|QUADRANT UPPER LEFT",
     "QUADRANT UPPER LEFT AND LOWER LEFT AND LOWER RIGHT|QUADRANT UPPER LEFT AND LOWER RIGHT",
     "QUADRANT UPPER LEFT AND UPPER RIGHT AND LOWER LEFT",
     "QUADRANT UPPER LEFT AND UPPER RIGHT AND LOWER RIGHT|QUADRANT UPPER RIGHT",
     "QUADRANT UPPER RIGHT AND LOWER LEFT|QUADRANT UPPER RIGHT AND LOWER LEFT AND LOWER RIGHT",
     "FISHEYE|LOZENGE|DOTTED CIRCLE|CIRCLE WITH VERTICAL FILL|BULLSEYE",
     "CIRCLE WITH LEFT HALF BLACK|CIRCLE WITH RIGHT HALF BLACK|CIRCLE WITH LOWER HALF BLACK",
     "CIRCLE WITH UPPER HALF BLACK|CIRCLE WITH UPPER RIGHT QUADRANT BLACK",
     "CIRCLE WITH ALL BUT UPPER LEFT QUADRANT BLACK|INVERSE BULLET|INVERSE WHITE CIRCLE",
     "UPPER HALF INVERSE WHITE CIRCLE|LOWER HALF INVERSE WHITE CIRCLE",
     "UPPER LEFT QUADRANT CIRCULAR ARC|UPPER RIGHT QUADRANT CIRCULAR ARC",
     "LOWER RIGHT QUADRANT CIRCULAR ARC|LOWER LEFT QUADRANT CIRCULAR ARC|UPPER HALF CIRCLE",
     "LOWER HALF CIRCLE|UP-POINTING TRIANGLE WITH LEFT HALF BLACK",
     "UP-POINTING TRIANGLE WITH RIGHT HALF BLACK|LARGE CIRCLE|UPPER LEFT TRIANGLE",
     "UPPER RIGHT TRIANGLE|LOWER LEFT TRIANGLE|LOWER RIGHT TRIANGLE|CLOUD|UMBRELLA|SNOWMAN|COMET",
     "LIGHTNING|THUNDERSTORM|SUN|ASCENDING NODE|DESCENDING NODE|CONJUNCTION|OPPOSITION",
     "BALLOT BOX|BALLOT BOX WITH CHECK|BALLOT BOX WITH X|SALTIRE|UMBRELLA WITH RAIN DROPS",
     "HOT BEVERAGE|SHAMROCK|REVERSED ROTATED FLORAL HEART BULLET|SKULL AND CROSSBONES",
     "CAUTION SIGN|RADIOACTIVE SIGN|BIOHAZARD SIGN|CADUCEUS|ANKH|ORTHODOX CROSS|CHI RHO",
     "CROSS OF LORRAINE|CROSS OF JERUSALEM|STAR AND CRESCENT|FARSI SYMBOL|ADI SHAKTI",
     "HAMMER AND SICKLE|PEACE SYMBOL|YIN YANG|TRIGRAM FOR HEAVEN|TRIGRAM FOR LAKE",
     "TRIGRAM FOR FIRE|TRIGRAM FOR THUNDER|TRIGRAM FOR WIND|TRIGRAM FOR WATER",
     "TRIGRAM FOR MOUNTAIN|TRIGRAM FOR EARTH|WHEEL OF DHARMA|FIRST QUARTER MOON",
     "LAST QUARTER MOON|MERCURY|FEMALE SIGN|EARTH|MALE SIGN|JUPITER|SATURN|URANUS|NEPTUNE|PLUTO",
     "ARIES|TAURUS|GEMINI|CANCER|LEO|VIRGO|LIBRA|SCORPIUS|SAGITTARIUS|CAPRICORN|AQUARIUS|PISCES",
     "HOT SPRINGS|QUARTER NOTE|EIGHTH NOTE|BEAMED EIGHTH NOTES|BEAMED SIXTEENTH NOTES",
     "MUSIC FLAT SIGN|MUSIC NATURAL SIGN|MUSIC SHARP SIGN|WEST SYRIAC CROSS|EAST SYRIAC CROSS",
     "UNIVERSAL RECYCLING SYMBOL|RECYCLING SYMBOL FOR TYPE-1 PLASTICS",
     "RECYCLING SYMBOL FOR TYPE-2 PLASTICS|RECYCLING SYMBOL FOR TYPE-3 PLASTICS",
     "RECYCLING SYMBOL FOR TYPE-4 PLASTICS|RECYCLING SYMBOL FOR TYPE-5 PLASTICS",
     "RECYCLING SYMBOL FOR TYPE-6 PLASTICS|RECYCLING SYMBOL FOR TYPE-7 PLASTICS",
     "RECYCLING SYMBOL FOR GENERIC MATERIALS|RECYCLED PAPER SYMBOL",
     "PARTIALLY-RECYCLED PAPER SYMBOL|PERMANENT PAPER SIGN|WHEELCHAIR SYMBOL|DIE FACE-1",
     "DIE FACE-2|DIE FACE-3|DIE FACE-4|DIE FACE-5|DIE FACE-6|MONOGRAM FOR YANG|MONOGRAM FOR YIN",
     "DIGRAM FOR GREATER YANG|DIGRAM FOR LESSER YIN|DIGRAM FOR LESSER YANG",
     "DIGRAM FOR GREATER YIN|HAMMER AND PICK|ANCHOR|CROSSED SWORDS|STAFF OF AESCULAPIUS|SCALES",
     "ALEMBIC|FLOWER|GEAR|STAFF OF HERMES|ATOM SYMBOL|FLEUR-DE-LIS|OUTLINED WHITE STAR",
     "THREE LINES CONVERGING RIGHT|THREE LINES CONVERGING LEFT|WARNING SIGN|HIGH VOLTAGE SIGN",
     "DOUBLED FEMALE SIGN|DOUBLED MALE SIGN|INTERLOCKED FEMALE AND MALE SIGN",
     "MALE AND FEMALE SIGN|MALE WITH STROKE SIGN|MALE WITH STROKE AND MALE AND FEMALE SIGN",
     "VERTICAL MALE WITH STROKE SIGN|HORIZONTAL MALE WITH STROKE SIGN|MEDIUM WHITE CIRCLE",
     "MEDIUM BLACK CIRCLE|MEDIUM SMALL WHITE CIRCLE|MARRIAGE SYMBOL|DIVORCE SYMBOL",
     "UNMARRIED PARTNERSHIP SYMBOL|COFFIN|FUNERAL URN|NEUTER|CERES|PALLAS|JUNO|VESTA|CHIRON",
     "SEXTILE|SEMISEXTILE|QUINCUNX|SESQUIQUADRATE|SOCCER BALL|BASEBALL|SQUARED KEY",
     "SNOWMAN WITHOUT SNOW|SUN BEHIND CLOUD|RAIN|THUNDER CLOUD AND RAIN|TURNED WHITE SHOGI PIECE",
     "TURNED BLACK SHOGI PIECE|CROSSING LANES|DISABLED CAR|OPHIUCHUS|PICK|CAR SLIDING",
     "HELMET WITH WHITE CROSS|CIRCLED CROSSING LANES|CHAINS|NO ENTRY",
     "ALTERNATE ONE-WAY LEFT WAY TRAFFIC|DRIVE SLOW SIGN|SQUARED SALTIRE",
     "FALLING DIAGONAL IN WHITE CIRCLE IN BLACK SQUARE|RESTRICTED LEFT ENTRY-1",
     "RESTRICTED LEFT ENTRY-2|ASTRONOMICAL SYMBOL FOR URANUS|PENTAGRAM",
     "RIGHT-HANDED INTERLACED PENTAGRAM|LEFT-HANDED INTERLACED PENTAGRAM|INVERTED PENTAGRAM",
     "SHINTO SHRINE|CHURCH|CASTLE|HISTORIC SITE|GEAR WITHOUT HUB|GEAR WITH HANDLES",
     "MAP SYMBOL FOR LIGHTHOUSE|MOUNTAIN|UMBRELLA ON GROUND|FOUNTAIN|FLAG IN HOLE|FERRY|SAILBOAT",
     "SKIER|ICE SKATE|PERSON WITH BALL|TENT|JAPANESE BANK SYMBOL|HEADSTONE GRAVEYARD SYMBOL",
     "FUEL PUMP|CUP ON BLACK SQUARE|UPPER BLADE SCISSORS|LOWER BLADE SCISSORS",
     "TELEPHONE LOCATION SIGN|TAPE DRIVE|AIRPLANE|ENVELOPE|RAISED FIST|RAISED HAND|VICTORY HAND",
     "WRITING HAND|LOWER RIGHT PENCIL|PENCIL|UPPER RIGHT PENCIL|CHECK MARK|MULTIPLICATION X",
     "BALLOT X|OUTLINED GREEK CROSS|OPEN CENTRE CROSS|LATIN CROSS|SHADOWED WHITE LATIN CROSS",
     "OUTLINED LATIN CROSS|MALTESE CROSS|STAR OF DAVID|FOUR TEARDROP-SPOKED ASTERISK",
     "FOUR BALLOON-SPOKED ASTERISK|FOUR CLUB-SPOKED ASTERISK|SPARKLES|STRESS OUTLINED WHITE STAR",
     "CIRCLED WHITE STAR|OPEN CENTRE BLACK STAR|OUTLINED BLACK STAR|PINWHEEL STAR",
     "SHADOWED WHITE STAR|OPEN CENTRE ASTERISK|EIGHT SPOKED ASTERISK|EIGHT POINTED BLACK STAR",
     "EIGHT POINTED PINWHEEL STAR|SIX POINTED BLACK STAR|EIGHT POINTED RECTILINEAR BLACK STAR",
     "TWELVE POINTED BLACK STAR|SIXTEEN POINTED ASTERISK|TEARDROP-SPOKED ASTERISK",
     "OPEN CENTRE TEARDROP-SPOKED ASTERISK|SIX PETALLED BLACK AND WHITE FLORETTE",
     "EIGHT PETALLED OUTLINED BLACK FLORETTE|CIRCLED OPEN CENTRE EIGHT POINTED STAR|SNOWFLAKE",
     "TIGHT TRIFOLIATE SNOWFLAKE|SPARKLE|BALLOON-SPOKED ASTERISK",
     "EIGHT TEARDROP-SPOKED PROPELLER ASTERISK|CROSS MARK|SHADOWED WHITE CIRCLE",
     "NEGATIVE SQUARED CROSS MARK|LOWER RIGHT DROP-SHADOWED WHITE SQUARE",
     "UPPER RIGHT DROP-SHADOWED WHITE SQUARE|LOWER RIGHT SHADOWED WHITE SQUARE",
     "UPPER RIGHT SHADOWED WHITE SQUARE|LIGHT VERTICAL BAR|MEDIUM VERTICAL BAR",
     "CURVED STEM PARAGRAPH SIGN ORNAMENT|ROTATED HEAVY BLACK HEART BULLET|FLORAL HEART",
     "ROTATED FLORAL HEART BULLET|MEDIUM LEFT PARENTHESIS ORNAMENT",
     "MEDIUM RIGHT PARENTHESIS ORNAMENT|MEDIUM FLATTENED LEFT PARENTHESIS ORNAMENT",
     "MEDIUM FLATTENED RIGHT PARENTHESIS ORNAMENT|MEDIUM LEFT-POINTING ANGLE BRACKET ORNAMENT",
     "MEDIUM RIGHT-POINTING ANGLE BRACKET ORNAMENT|LIGHT LEFT TORTOISE SHELL BRACKET ORNAMENT",
     "LIGHT RIGHT TORTOISE SHELL BRACKET ORNAMENT|MEDIUM LEFT CURLY BRACKET ORNAMENT",
     "MEDIUM RIGHT CURLY BRACKET ORNAMENT|DINGBAT CIRCLED SANS-SERIF NUMBER TEN",
     "DRAFTING POINT RIGHTWARDS ARROW|TRIANGLE-HEADED RIGHTWARDS ARROW",
     "DASHED TRIANGLE-HEADED RIGHTWARDS ARROW|THREE-D TOP-LIGHTED RIGHTWARDS ARROWHEAD",
     "THREE-D BOTTOM-LIGHTED RIGHTWARDS ARROWHEAD|SQUAT BLACK RIGHTWARDS ARROW",
     "RIGHT-SHADED WHITE RIGHTWARDS ARROW|LEFT-SHADED WHITE RIGHTWARDS ARROW",
     "BACK-TILTED SHADOWED WHITE RIGHTWARDS ARROW|FRONT-TILTED SHADOWED WHITE RIGHTWARDS ARROW",
     "NOTCHED LOWER RIGHT-SHADOWED WHITE RIGHTWARDS ARROW|CURLY LOOP",
     "NOTCHED UPPER RIGHT-SHADOWED WHITE RIGHTWARDS ARROW|CIRCLED HEAVY WHITE RIGHTWARDS ARROW",
     "WHITE-FEATHERED RIGHTWARDS ARROW|BLACK-FEATHERED SOUTH EAST ARROW",
     "BLACK-FEATHERED RIGHTWARDS ARROW|BLACK-FEATHERED NORTH EAST ARROW",
     "TEARDROP-BARBED RIGHTWARDS ARROW|WEDGE-TAILED RIGHTWARDS ARROW",
     "OPEN-OUTLINED RIGHTWARDS ARROW|DOUBLE CURLY LOOP|THREE DIMENSIONAL ANGLE|PERPENDICULAR",
     "OPEN SUBSET|OPEN SUPERSET|OR WITH DOT INSIDE|REVERSE SOLIDUS PRECEDING SUBSET",
     "SUPERSET PRECEDING SOLIDUS|VERTICAL BAR WITH HORIZONTAL STROKE",
     "MATHEMATICAL RISING DIAGONAL|LONG DIVISION|MATHEMATICAL FALLING DIAGONAL",
     "SQUARED LOGICAL AND|SQUARED LOGICAL OR|AND WITH DOT|ELEMENT OF OPENING UPWARDS",
     "LOWER RIGHT CORNER WITH DOT|UPPER LEFT CORNER WITH DOT|FULL OUTER JOIN|LARGE UP TACK",
     "LARGE DOWN TACK|LONG RIGHT TACK|LONG LEFT TACK|UP TACK WITH CIRCLE ABOVE",
     "LOZENGE DIVIDED BY HORIZONTAL RULE|MATHEMATICAL LEFT WHITE SQUARE BRACKET",
     "MATHEMATICAL RIGHT WHITE SQUARE BRACKET|MATHEMATICAL LEFT ANGLE BRACKET",
     "MATHEMATICAL RIGHT ANGLE BRACKET|MATHEMATICAL LEFT DOUBLE ANGLE BRACKET",
     "MATHEMATICAL RIGHT DOUBLE ANGLE BRACKET|MATHEMATICAL LEFT WHITE TORTOISE SHELL BRACKET",
     "MATHEMATICAL RIGHT WHITE TORTOISE SHELL BRACKET|MATHEMATICAL LEFT FLATTENED PARENTHESIS",
     "MATHEMATICAL RIGHT FLATTENED PARENTHESIS|ANTICLOCKWISE GAPPED CIRCLE ARROW",
     "CLOCKWISE GAPPED CIRCLE ARROW|LONG LEFTWARDS ARROW|LONG RIGHTWARDS ARROW",
     "LONG LEFT RIGHT ARROW|LONG LEFTWARDS DOUBLE ARROW|LONG RIGHTWARDS DOUBLE ARROW",
     "LONG LEFT RIGHT DOUBLE ARROW|LONG LEFTWARDS ARROW FROM BAR|LONG RIGHTWARDS ARROW FROM BAR",
     "LONG LEFTWARDS DOUBLE ARROW FROM BAR|LONG RIGHTWARDS DOUBLE ARROW FROM BAR",
     "LONG RIGHTWARDS SQUIGGLE ARROW|NORTH EAST WHITE ARROW|NORTH WEST WHITE ARROW",
     "SOUTH EAST WHITE ARROW|SOUTH WEST WHITE ARROW|NORTH EAST BLACK ARROW",
     "NORTH WEST BLACK ARROW|SOUTH EAST BLACK ARROW|SOUTH WEST BLACK ARROW|UP DOWN BLACK ARROW",
     "DIAMOND WITH LEFT HALF BLACK|DIAMOND WITH RIGHT HALF BLACK|DIAMOND WITH TOP HALF BLACK",
     "DIAMOND WITH BOTTOM HALF BLACK|DOTTED SQUARE|HORIZONTAL BLACK HEXAGON",
     "THREE LEFTWARDS ARROWS|LONG LEFTWARDS SQUIGGLE ARROW|WAVE ARROW POINTING DIRECTLY LEFT",
     "EQUALS SIGN ABOVE LEFTWARDS ARROW|REVERSE TILDE OPERATOR ABOVE LEFTWARDS ARROW",
     "REVERSE TILDE OPERATOR ABOVE RIGHTWARDS ARROW|TILDE OPERATOR ABOVE LEFTWARDS ARROW",
     "SHORT SLANTED NORTH ARROW|SHORT BACKSLANTED SOUTH ARROW",
     "SLANTED NORTH ARROW WITH HOOKED HEAD|BACKSLANTED SOUTH ARROW WITH HOOKED TAIL",
     "SLANTED NORTH ARROW WITH HORIZONTAL TAIL|BACKSLANTED SOUTH ARROW WITH HORIZONTAL TAIL",
     "BENT ARROW POINTING DOWNWARDS THEN NORTH EAST",
     "SHORT BENT ARROW POINTING DOWNWARDS THEN NORTH EAST|IDEOGRAPHIC SPACE|IDEOGRAPHIC COMMA",
     "IDEOGRAPHIC FULL STOP|DITTO MARK|JAPANESE INDUSTRIAL STANDARD SYMBOL",
     "IDEOGRAPHIC ITERATION MARK|IDEOGRAPHIC CLOSING MARK|IDEOGRAPHIC NUMBER ZERO|POSTAL MARK",
     "GETA MARK|WAVE DASH|REVERSED DOUBLE PRIME QUOTATION MARK|DOUBLE PRIME QUOTATION MARK",
     "LOW DOUBLE PRIME QUOTATION MARK|POSTAL MARK FACE|IDEOGRAPHIC LEVEL TONE MARK",
     "IDEOGRAPHIC RISING TONE MARK|IDEOGRAPHIC DEPARTING TONE MARK",
     "IDEOGRAPHIC ENTERING TONE MARK|HANGUL SINGLE DOT TONE MARK|HANGUL DOUBLE DOT TONE MARK",
     "WAVY DASH|VERTICAL KANA REPEAT MARK|VERTICAL KANA REPEAT WITH VOICED SOUND MARK",
     "VERTICAL KANA REPEAT MARK UPPER HALF",
     "VERTICAL KANA REPEAT WITH VOICED SOUND MARK UPPER HALF",
     "VERTICAL KANA REPEAT MARK LOWER HALF|CIRCLED POSTAL MARK",
     "IDEOGRAPHIC TELEGRAPH LINE FEED SEPARATOR SYMBOL|VERTICAL IDEOGRAPHIC ITERATION MARK",
     "MASU MARK|PART ALTERNATION MARK|IDEOGRAPHIC VARIATION INDICATOR",
     "IDEOGRAPHIC HALF FILL SPACE|KATAKANA-HIRAGANA VOICED SOUND MARK",
     "KATAKANA-HIRAGANA SEMI-VOICED SOUND MARK|HIRAGANA ITERATION MARK",
     "HIRAGANA VOICED ITERATION MARK|HIRAGANA DIGRAPH YORI|KATAKANA-HIRAGANA DOUBLE HYPHEN",
     "KATAKANA MIDDLE DOT|KATAKANA-HIRAGANA PROLONGED SOUND MARK|KATAKANA ITERATION MARK",
     "KATAKANA VOICED ITERATION MARK|KATAKANA DIGRAPH KOTO|ZERO WIDTH NO-BREAK SPACE",
     "OBJECT REPLACEMENT CHARACTER|REPLACEMENT CHARACTER|CYCLONE|FOGGY|CLOSED UMBRELLA",
     "NIGHT WITH STARS|SUNRISE OVER MOUNTAINS|SUNRISE|CITYSCAPE AT DUSK|SUNSET OVER BUILDINGS",
     "RAINBOW|BRIDGE AT NIGHT|WATER WAVE|VOLCANO|MILKY WAY|EARTH GLOBE EUROPE-AFRICA",
     "EARTH GLOBE AMERICAS|EARTH GLOBE ASIA-AUSTRALIA|GLOBE WITH MERIDIANS|NEW MOON SYMBOL",
     "WAXING CRESCENT MOON SYMBOL|FIRST QUARTER MOON SYMBOL|WAXING GIBBOUS MOON SYMBOL",
     "FULL MOON SYMBOL|WANING GIBBOUS MOON SYMBOL|LAST QUARTER MOON SYMBOL",
     "WANING CRESCENT MOON SYMBOL|CRESCENT MOON|NEW MOON WITH FACE|FIRST QUARTER MOON WITH FACE",
     "LAST QUARTER MOON WITH FACE|FULL MOON WITH FACE|SUN WITH FACE|GLOWING STAR|SHOOTING STAR",
     "THERMOMETER|CLOUD WITH RAIN|CLOUD WITH SNOW|CLOUD WITH LIGHTNING|CLOUD WITH TORNADO|FOG",
     "WIND BLOWING FACE|HOT DOG|TACO|BURRITO|CHESTNUT|SEEDLING|EVERGREEN TREE|DECIDUOUS TREE",
     "PALM TREE|CACTUS|HOT PEPPER|TULIP|CHERRY BLOSSOM|ROSE|HIBISCUS|SUNFLOWER|BLOSSOM",
     "EAR OF MAIZE|EAR OF RICE|HERB|FOUR LEAF CLOVER|MAPLE LEAF|FALLEN LEAF",
     "LEAF FLUTTERING IN WIND|MUSHROOM|TOMATO|AUBERGINE|GRAPES|MELON|WATERMELON|TANGERINE|LEMON",
     "BANANA|PINEAPPLE|RED APPLE|GREEN APPLE|PEAR|PEACH|CHERRIES|STRAWBERRY|HAMBURGER",
     "SLICE OF PIZZA|MEAT ON BONE|POULTRY LEG|RICE CRACKER|RICE BALL|COOKED RICE|CURRY AND RICE",
     "STEAMING BOWL|SPAGHETTI|BREAD|FRENCH FRIES|ROASTED SWEET POTATO|DANGO|ODEN|SUSHI",
     "FRIED SHRIMP|FISH CAKE WITH SWIRL DESIGN|SOFT ICE CREAM|SHAVED ICE|ICE CREAM|DOUGHNUT",
     "COOKIE|CHOCOLATE BAR|CANDY|LOLLIPOP|CUSTARD|HONEY POT|SHORTCAKE|BENTO BOX|POT OF FOOD",
     "COOKING|FORK AND KNIFE|TEACUP WITHOUT HANDLE|SAKE BOTTLE AND CUP|WINE GLASS|COCKTAIL GLASS",
     "TROPICAL DRINK|BEER MUG|CLINKING BEER MUGS|BABY BOTTLE|FORK AND KNIFE WITH PLATE",
     "BOTTLE WITH POPPING CORK|POPCORN|RIBBON|WRAPPED PRESENT|BIRTHDAY CAKE|JACK-O-LANTERN",
     "CHRISTMAS TREE|FATHER CHRISTMAS|FIREWORKS|FIREWORK SPARKLER|BALLOON|PARTY POPPER",
     "CONFETTI BALL|TANABATA TREE|CROSSED FLAGS|PINE DECORATION|JAPANESE DOLLS|CARP STREAMER",
     "WIND CHIME|MOON VIEWING CEREMONY|SCHOOL SATCHEL|GRADUATION CAP|HEART WITH TIP ON THE LEFT",
     "BOUQUET OF FLOWERS|MILITARY MEDAL|REMINDER RIBBON|MUSICAL KEYBOARD WITH JACKS",
     "STUDIO MICROPHONE|LEVEL SLIDER|CONTROL KNOBS|BEAMED ASCENDING MUSICAL NOTES",
     "BEAMED DESCENDING MUSICAL NOTES|FILM FRAMES|ADMISSION TICKETS|CAROUSEL HORSE|FERRIS WHEEL",
     "ROLLER COASTER|FISHING POLE AND FISH|MICROPHONE|MOVIE CAMERA|CINEMA|HEADPHONE",
     "ARTIST PALETTE|TOP HAT|CIRCUS TENT|TICKET|CLAPPER BOARD|PERFORMING ARTS|VIDEO GAME",
     "DIRECT HIT|SLOT MACHINE|BILLIARDS|GAME DIE|BOWLING|FLOWER PLAYING CARDS|MUSICAL NOTE",
     "MULTIPLE MUSICAL NOTES|SAXOPHONE|GUITAR|MUSICAL KEYBOARD|TRUMPET|VIOLIN|MUSICAL SCORE",
     "RUNNING SHIRT WITH SASH|TENNIS RACQUET AND BALL|SKI AND SKI BOOT|BASKETBALL AND HOOP",
     "CHEQUERED FLAG|SNOWBOARDER|RUNNER|SURFER|SPORTS MEDAL|TROPHY|HORSE RACING",
     "AMERICAN FOOTBALL|RUGBY FOOTBALL|SWIMMER|WEIGHT LIFTER|GOLFER|RACING MOTORCYCLE|RACING CAR",
     "CRICKET BAT AND BALL|VOLLEYBALL|FIELD HOCKEY STICK AND BALL|ICE HOCKEY STICK AND PUCK",
     "TABLE TENNIS PADDLE AND BALL|SNOW CAPPED MOUNTAIN|CAMPING|BEACH WITH UMBRELLA",
     "BUILDING CONSTRUCTION|HOUSE BUILDINGS|CITYSCAPE|DERELICT HOUSE BUILDING|CLASSICAL BUILDING",
     "DESERT|DESERT ISLAND|NATIONAL PARK|STADIUM|HOUSE BUILDING|HOUSE WITH GARDEN",
     "OFFICE BUILDING|JAPANESE POST OFFICE|EUROPEAN POST OFFICE|HOSPITAL|BANK",
     "AUTOMATED TELLER MACHINE|HOTEL|LOVE HOTEL|CONVENIENCE STORE|SCHOOL|DEPARTMENT STORE",
     "FACTORY|IZAKAYA LANTERN|JAPANESE CASTLE|EUROPEAN CASTLE|WAVING WHITE FLAG",
     "WAVING BLACK FLAG|ROSETTE|LABEL|BADMINTON RACQUET AND SHUTTLECOCK|BOW AND ARROW|AMPHORA",
     "EMOJI MODIFIER FITZPATRICK TYPE-1-2|EMOJI MODIFIER FITZPATRICK TYPE-3",
     "EMOJI MODIFIER FITZPATRICK TYPE-4|EMOJI MODIFIER FITZPATRICK TYPE-5",
     "EMOJI MODIFIER FITZPATRICK TYPE-6|RAT|MOUSE|OX|WATER BUFFALO|COW|TIGER|LEOPARD|RABBIT|CAT",
     "DRAGON|CROCODILE|WHALE|SNAIL|SNAKE|HORSE|RAM|GOAT|SHEEP|MONKEY|ROOSTER|CHICKEN|DOG|PIG",
     "BOAR|ELEPHANT|OCTOPUS|SPIRAL SHELL|BUG|ANT|HONEYBEE|LADY BEETLE|FISH|TROPICAL FISH",
     "BLOWFISH|TURTLE|HATCHING CHICK|BABY CHICK|FRONT-FACING BABY CHICK|BIRD|PENGUIN|KOALA",
     "POODLE|DROMEDARY CAMEL|BACTRIAN CAMEL|DOLPHIN|MOUSE FACE|COW FACE|TIGER FACE|RABBIT FACE",
     "CAT FACE|DRAGON FACE|SPOUTING WHALE|HORSE FACE|MONKEY FACE|DOG FACE|PIG FACE|FROG FACE",
     "HAMSTER FACE|WOLF FACE|BEAR FACE|PANDA FACE|PIG NOSE|PAW PRINTS|CHIPMUNK|EYES|EYE|EAR|NOSE",
     "MOUTH|TONGUE|FISTED HAND SIGN|WAVING HAND SIGN|OK HAND SIGN|THUMBS UP SIGN",
     "THUMBS DOWN SIGN|CLAPPING HANDS SIGN|OPEN HANDS SIGN|CROWN|WOMANS HAT|EYEGLASSES|NECKTIE",
     "T-SHIRT|JEANS|DRESS|KIMONO|BIKINI|WOMANS CLOTHES|PURSE|HANDBAG|POUCH|MANS SHOE",
     "ATHLETIC SHOE|HIGH-HEELED SHOE|WOMANS SANDAL|WOMANS BOOTS|FOOTPRINTS|BUST IN SILHOUETTE",
     "BUSTS IN SILHOUETTE|BOY|GIRL|MAN|WOMAN|FAMILY|MAN AND WOMAN HOLDING HANDS",
     "TWO MEN HOLDING HANDS|TWO WOMEN HOLDING HANDS|POLICE OFFICER|WOMAN WITH BUNNY EARS",
     "BRIDE WITH VEIL|PERSON WITH BLOND HAIR|MAN WITH GUA PI MAO|MAN WITH TURBAN|OLDER MAN",
     "OLDER WOMAN|BABY|CONSTRUCTION WORKER|PRINCESS|JAPANESE OGRE|JAPANESE GOBLIN|GHOST",
     "BABY ANGEL|EXTRATERRESTRIAL ALIEN|ALIEN MONSTER|IMP|SKULL|INFORMATION DESK PERSON",
     "GUARDSMAN|DANCER|LIPSTICK|NAIL POLISH|FACE MASSAGE|HAIRCUT|BARBER POLE|SYRINGE|PILL",
     "KISS MARK|LOVE LETTER|RING|GEM STONE|KISS|BOUQUET|COUPLE WITH HEART|WEDDING|BEATING HEART",
     "BROKEN HEART|TWO HEARTS|SPARKLING HEART|GROWING HEART|HEART WITH ARROW|BLUE HEART",
     "GREEN HEART|YELLOW HEART|PURPLE HEART|HEART WITH RIBBON|REVOLVING HEARTS|HEART DECORATION",
     "DIAMOND SHAPE WITH A DOT INSIDE|ELECTRIC LIGHT BULB|ANGER SYMBOL|BOMB|SLEEPING SYMBOL",
     "COLLISION SYMBOL|SPLASHING SWEAT SYMBOL|DROPLET|DASH SYMBOL|PILE OF POO|FLEXED BICEPS",
     "DIZZY SYMBOL|SPEECH BALLOON|THOUGHT BALLOON|HUNDRED POINTS SYMBOL|MONEY BAG",
     "CURRENCY EXCHANGE|CREDIT CARD|BANKNOTE WITH YEN SIGN|BANKNOTE WITH DOLLAR SIGN",
     "BANKNOTE WITH EURO SIGN|BANKNOTE WITH POUND SIGN|MONEY WITH WINGS",
     "CHART WITH UPWARDS TREND AND YEN SIGN|SEAT|PERSONAL COMPUTER|BRIEFCASE|MINIDISC",
     "FLOPPY DISK|OPTICAL DISC|DVD|FILE FOLDER|OPEN FILE FOLDER|PAGE WITH CURL|PAGE FACING UP",
     "CALENDAR|TEAR-OFF CALENDAR|CARD INDEX|CHART WITH UPWARDS TREND|CHART WITH DOWNWARDS TREND",
     "BAR CHART|CLIPBOARD|PUSHPIN|ROUND PUSHPIN|PAPERCLIP|STRAIGHT RULER|TRIANGULAR RULER",
     "BOOKMARK TABS|LEDGER|NOTEBOOK|NOTEBOOK WITH DECORATIVE COVER|CLOSED BOOK|OPEN BOOK",
     "GREEN BOOK|BLUE BOOK|ORANGE BOOK|BOOKS|NAME BADGE|SCROLL|MEMO|TELEPHONE RECEIVER|PAGER",
     "FAX MACHINE|SATELLITE ANTENNA|PUBLIC ADDRESS LOUDSPEAKER|CHEERING MEGAPHONE|OUTBOX TRAY",
     "INBOX TRAY|PACKAGE|E-MAIL SYMBOL|INCOMING ENVELOPE|ENVELOPE WITH DOWNWARDS ARROW ABOVE",
     "CLOSED MAILBOX WITH LOWERED FLAG|CLOSED MAILBOX WITH RAISED FLAG",
     "OPEN MAILBOX WITH RAISED FLAG|OPEN MAILBOX WITH LOWERED FLAG|POSTBOX|POSTAL HORN|NEWSPAPER",
     "MOBILE PHONE|MOBILE PHONE WITH RIGHTWARDS ARROW AT LEFT|VIBRATION MODE|MOBILE PHONE OFF",
     "NO MOBILE PHONES|ANTENNA WITH BARS|CAMERA|CAMERA WITH FLASH|VIDEO CAMERA|TELEVISION|RADIO",
     "VIDEOCASSETTE|FILM PROJECTOR|PORTABLE STEREO|PRAYER BEADS|TWISTED RIGHTWARDS ARROWS",
     "CLOCKWISE RIGHTWARDS AND LEFTWARDS OPEN CIRCLE ARROWS",
     "CLOCKWISE RIGHTWARDS AND LEFTWARDS OPEN CIRCLE ARROWS WITH CIRCLED ONE OVERLAY",
     "CLOCKWISE DOWNWARDS AND UPWARDS OPEN CIRCLE ARROWS",
     "ANTICLOCKWISE DOWNWARDS AND UPWARDS OPEN CIRCLE ARROWS|LOW BRIGHTNESS SYMBOL",
     "HIGH BRIGHTNESS SYMBOL|SPEAKER WITH CANCELLATION STROKE|SPEAKER",
     "SPEAKER WITH ONE SOUND WAVE|SPEAKER WITH THREE SOUND WAVES|BATTERY|ELECTRIC PLUG",
     "LEFT-POINTING MAGNIFYING GLASS|RIGHT-POINTING MAGNIFYING GLASS|LOCK WITH INK PEN",
     "CLOSED LOCK WITH KEY|KEY|LOCK|OPEN LOCK|BELL|BELL WITH CANCELLATION STROKE|BOOKMARK",
     "LINK SYMBOL|RADIO BUTTON|BACK WITH LEFTWARDS ARROW ABOVE|END WITH LEFTWARDS ARROW ABOVE",
     "ON WITH EXCLAMATION MARK WITH LEFT RIGHT ARROW ABOVE|SOON WITH RIGHTWARDS ARROW ABOVE",
     "TOP WITH UPWARDS ARROW ABOVE|NO ONE UNDER EIGHTEEN SYMBOL|KEYCAP TEN",
     "INPUT SYMBOL FOR LATIN CAPITAL LETTERS|INPUT SYMBOL FOR LATIN SMALL LETTERS",
     "INPUT SYMBOL FOR NUMBERS|INPUT SYMBOL FOR SYMBOLS|INPUT SYMBOL FOR LATIN LETTERS|FIRE",
     "ELECTRIC TORCH|WRENCH|HAMMER|NUT AND BOLT|HOCHO|PISTOL|MICROSCOPE|TELESCOPE|CRYSTAL BALL",
     "SIX POINTED STAR WITH MIDDLE DOT|JAPANESE SYMBOL FOR BEGINNER|TRIDENT EMBLEM",
     "LARGE RED CIRCLE|LARGE BLUE CIRCLE|LARGE ORANGE DIAMOND|LARGE BLUE DIAMOND",
     "SMALL ORANGE DIAMOND|SMALL BLUE DIAMOND|UP-POINTING RED TRIANGLE",
     "DOWN-POINTING RED TRIANGLE|UP-POINTING SMALL RED TRIANGLE|DOWN-POINTING SMALL RED TRIANGLE",
     "LOWER RIGHT SHADOWED WHITE CIRCLE|UPPER RIGHT SHADOWED WHITE CIRCLE|CIRCLED CROSS POMMEE",
     "CROSS POMMEE WITH HALF-CIRCLE BELOW|CROSS POMMEE|NOTCHED LEFT SEMICIRCLE WITH THREE DOTS",
     "NOTCHED RIGHT SEMICIRCLE WITH THREE DOTS|SYMBOL FOR MARKS CHAPTER|CELTIC CROSS|OM SYMBOL",
     "DOVE OF PEACE|KAABA|MOSQUE|SYNAGOGUE|MENORAH WITH NINE BRANCHES|BOWL OF HYGIEIA|BULLHORN",
     "BULLHORN WITH SOUND WAVES|RINGING BELL|BOOK|CANDLE|MANTELPIECE CLOCK|NO PIRACY|HOLE",
     "MAN IN BUSINESS SUIT LEVITATING|SLEUTH OR SPY|DARK SUNGLASSES|SPIDER|SPIDER WEB|JOYSTICK",
     "MAN DANCING|TELEPHONE RECEIVER WITH PAGE|TELEPHONE ON TOP OF MODEM|CLAMSHELL MOBILE PHONE",
     "BACK OF ENVELOPE|STAMPED ENVELOPE|ENVELOPE WITH LIGHTNING|FLYING ENVELOPE",
     "PEN OVER STAMPED ENVELOPE|LINKED PAPERCLIPS|LOWER LEFT PENCIL|LOWER LEFT BALLPOINT PEN",
     "LOWER LEFT FOUNTAIN PEN|LOWER LEFT PAINTBRUSH|LOWER LEFT CRAYON|TURNED OK HAND SIGN",
     "RAISED HAND WITH FINGERS SPLAYED|REVERSED RAISED HAND WITH FINGERS SPLAYED",
     "REVERSED THUMBS UP SIGN|REVERSED THUMBS DOWN SIGN|REVERSED VICTORY HAND",
     "REVERSED HAND WITH MIDDLE FINGER EXTENDED",
     "RAISED HAND WITH PART BETWEEN MIDDLE AND RING FINGERS|SIDEWAYS WHITE LEFT POINTING INDEX",
     "SIDEWAYS WHITE RIGHT POINTING INDEX|SIDEWAYS BLACK LEFT POINTING INDEX",
     "SIDEWAYS BLACK RIGHT POINTING INDEX|SIDEWAYS WHITE UP POINTING INDEX",
     "SIDEWAYS WHITE DOWN POINTING INDEX|SIDEWAYS BLACK UP POINTING INDEX",
     "SIDEWAYS BLACK DOWN POINTING INDEX|DESKTOP COMPUTER|KEYBOARD AND MOUSE",
     "THREE NETWORKED COMPUTERS|PRINTER|POCKET CALCULATOR|SOFT SHELL FLOPPY DISK|TAPE CARTRIDGE",
     "WIRED KEYBOARD|ONE BUTTON MOUSE|TWO BUTTON MOUSE|THREE BUTTON MOUSE|TRACKBALL",
     "OLD PERSONAL COMPUTER|HARD DISK|SCREEN|PRINTER ICON|FAX ICON|OPTICAL DISC ICON",
     "DOCUMENT WITH TEXT|DOCUMENT WITH TEXT AND PICTURE|DOCUMENT WITH PICTURE|FRAME WITH PICTURE",
     "FRAME WITH TILES|FRAME WITH AN X|FOLDER|OPEN FOLDER|CARD INDEX DIVIDERS|CARD FILE BOX",
     "FILE CABINET|EMPTY NOTE|EMPTY NOTE PAGE|EMPTY NOTE PAD|NOTE|NOTE PAGE|NOTE PAD",
     "EMPTY DOCUMENT|EMPTY PAGE|EMPTY PAGES|DOCUMENT|PAGE|PAGES|WASTEBASKET|SPIRAL NOTE PAD",
     "SPIRAL CALENDAR PAD|DESKTOP WINDOW|MINIMIZE|MAXIMIZE|OVERLAP",
     "CLOCKWISE RIGHT AND LEFT SEMICIRCLE ARROWS|CANCELLATION X|INCREASE FONT SIZE SYMBOL",
     "DECREASE FONT SIZE SYMBOL|COMPRESSION|OLD KEY|ROLLED-UP NEWSPAPER|PAGE WITH CIRCLED TEXT",
     "STOCK CHART|DAGGER KNIFE|LIPS|SPEAKING HEAD IN SILHOUETTE|THREE RAYS ABOVE",
     "THREE RAYS BELOW|THREE RAYS LEFT|THREE RAYS RIGHT|TWO SPEECH BUBBLES|THREE SPEECH BUBBLES",
     "MOOD BUBBLE|LIGHTNING MOOD BUBBLE|LIGHTNING MOOD|BALLOT BOX WITH BALLOT|BALLOT SCRIPT X",
     "BALLOT BOX WITH SCRIPT X|BALLOT BOLD SCRIPT X|BALLOT BOX WITH BOLD SCRIPT X",
     "LIGHT CHECK MARK|BALLOT BOX WITH BOLD CHECK|WORLD MAP|MOUNT FUJI|TOKYO TOWER",
     "STATUE OF LIBERTY|SILHOUETTE OF JAPAN|MOYAI|GRINNING FACE|GRINNING FACE WITH SMILING EYES",
     "WINKING FACE|FACE SAVOURING DELICIOUS FOOD|RELIEVED FACE|SMIRKING FACE|NEUTRAL FACE",
     "EXPRESSIONLESS FACE|UNAMUSED FACE|PENSIVE FACE|CONFUSED FACE|CONFOUNDED FACE|KISSING FACE",
     "FACE THROWING A KISS|KISSING FACE WITH SMILING EYES|KISSING FACE WITH CLOSED EYES",
     "DISAPPOINTED FACE|WORRIED FACE|ANGRY FACE|POUTING FACE|CRYING FACE|PERSEVERING FACE",
     "DISAPPOINTED BUT RELIEVED FACE|FROWNING FACE WITH OPEN MOUTH|ANGUISHED FACE|FEARFUL FACE",
     "WEARY FACE|SLEEPY FACE|TIRED FACE|GRIMACING FACE|LOUDLY CRYING FACE|HUSHED FACE",
     "FACE SCREAMING IN FEAR|ASTONISHED FACE|FLUSHED FACE|SLEEPING FACE|DIZZY FACE",
     "FACE WITHOUT MOUTH|GRINNING CAT FACE WITH SMILING EYES|CAT FACE WITH TEARS OF JOY",
     "SMILING CAT FACE WITH OPEN MOUTH|SMILING CAT FACE WITH HEART-SHAPED EYES",
     "CAT FACE WITH WRY SMILE|KISSING CAT FACE WITH CLOSED EYES|POUTING CAT FACE|CRYING CAT FACE",
     "WEARY CAT FACE|SLIGHTLY FROWNING FACE|SLIGHTLY SMILING FACE|UPSIDE-DOWN FACE",
     "PERSON BOWING DEEPLY|SEE-NO-EVIL MONKEY|HEAR-NO-EVIL MONKEY|SPEAK-NO-EVIL MONKEY",
     "HAPPY PERSON RAISING ONE HAND|PERSON RAISING BOTH HANDS IN CELEBRATION|PERSON FROWNING",
     "PERSON WITH POUTING FACE|PERSON WITH FOLDED HANDS|ROCKET|HELICOPTER|STEAM LOCOMOTIVE",
     "RAILWAY CAR|HIGH-SPEED TRAIN|HIGH-SPEED TRAIN WITH BULLET NOSE|TRAIN|METRO|LIGHT RAIL",
     "STATION|TRAM|TRAM CAR|BUS|ONCOMING BUS|TROLLEYBUS|BUS STOP|MINIBUS|AMBULANCE|FIRE ENGINE",
     "POLICE CAR|ONCOMING POLICE CAR|TAXI|ONCOMING TAXI|AUTOMOBILE|ONCOMING AUTOMOBILE",
     "RECREATIONAL VEHICLE|DELIVERY TRUCK|ARTICULATED LORRY|TRACTOR|MONORAIL|MOUNTAIN RAILWAY",
     "SUSPENSION RAILWAY|MOUNTAIN CABLEWAY|AERIAL TRAMWAY|SHIP|ROWBOAT|SPEEDBOAT",
     "HORIZONTAL TRAFFIC LIGHT|VERTICAL TRAFFIC LIGHT|CONSTRUCTION SIGN",
     "POLICE CARS REVOLVING LIGHT|TRIANGULAR FLAG ON POST|DOOR|NO ENTRY SIGN|SMOKING SYMBOL",
     "NO SMOKING SYMBOL|PUT LITTER IN ITS PLACE SYMBOL|DO NOT LITTER SYMBOL|POTABLE WATER SYMBOL",
     "NON-POTABLE WATER SYMBOL|BICYCLE|NO BICYCLES|BICYCLIST|MOUNTAIN BICYCLIST|PEDESTRIAN",
     "NO PEDESTRIANS|CHILDREN CROSSING|MENS SYMBOL|WOMENS SYMBOL|RESTROOM|BABY SYMBOL|TOILET",
     "WATER CLOSET|SHOWER|BATH|BATHTUB|PASSPORT CONTROL|CUSTOMS|BAGGAGE CLAIM",
     "TRIANGLE WITH ROUNDED CORNERS|PROHIBITED SIGN|CIRCLED INFORMATION SOURCE|BOYS SYMBOL",
     "GIRLS SYMBOL|COUCH AND LAMP|SLEEPING ACCOMMODATION|SHOPPING BAGS|BELLHOP BELL|BED",
     "PLACE OF WORSHIP|OCTAGONAL SIGN|SHOPPING TROLLEY|STUPA|PAGODA|HINDU TEMPLE|HUT|ELEVATOR",
     "PLAYGROUND SLIDE|WHEEL|RING BUOY|HAMMER AND WRENCH|SHIELD|OIL DRUM|MOTORWAY|RAILWAY TRACK",
     "MOTOR BOAT|UP-POINTING MILITARY AIRPLANE|UP-POINTING AIRPLANE|UP-POINTING SMALL AIRPLANE",
     "SMALL AIRPLANE|NORTHEAST-POINTING AIRPLANE|AIRPLANE DEPARTURE|AIRPLANE ARRIVING|SATELLITE",
     "ONCOMING FIRE ENGINE|DIESEL LOCOMOTIVE|PASSENGER SHIP|SCOOTER|MOTOR SCOOTER|CANOE|SLED",
     "FLYING SAUCER|SKATEBOARD|AUTO RICKSHAW|PICKUP TRUCK|ROLLER SKATE",
     "CIRCLED CROSS FORMEE WITH FOUR DOTS|CIRCLED CROSS FORMEE WITH TWO DOTS",
     "CIRCLED CROSS FORMEE|DOWNWARD FACING HOOK|DOWNWARD FACING NOTCHED HOOK",
     "DOWNWARD FACING HOOK WITH DOT|DOWNWARD FACING NOTCHED HOOK WITH DOT|PINCHED FINGERS",
     "BROWN HEART|PINCHING HAND|ZIPPER-MOUTH FACE|MONEY-MOUTH FACE|NERD FACE|THINKING FACE",
     "ROBOT FACE|HUGGING FACE|SIGN OF THE HORNS|CALL ME HAND|RAISED BACK OF HAND",
     "LEFT-FACING FIST|RIGHT-FACING FIST|HANDSHAKE|HAND WITH INDEX AND MIDDLE FINGERS CROSSED",
     "I LOVE YOU HAND SIGN|CLOWN FACE|NAUSEATED FACE|ROLLING ON THE FLOOR LAUGHING|DROOLING FACE",
     "LYING FACE|FACE PALM|SNEEZING FACE|GRINNING FACE WITH STAR EYES",
     "GRINNING FACE WITH ONE LARGE AND ONE SMALL EYE|SERIOUS FACE WITH SYMBOLS COVERING MOUTH",
     "SHOCKED FACE WITH EXPLODING HEAD|PREGNANT WOMAN|BREAST-FEEDING|PALMS UP TOGETHER|SELFIE",
     "PRINCE|MAN IN TUXEDO|MOTHER CHRISTMAS|SHRUG|PERSON DOING CARTWHEEL|JUGGLING|FENCER",
     "MODERN PENTATHLON|WRESTLERS|WATER POLO|HANDBALL|DIVING MASK|WILTED FLOWER",
     "DRUM WITH DRUMSTICKS|CLINKING GLASSES|TUMBLER GLASS|SPOON|GOAL NET|RIFLE|FIRST PLACE MEDAL",
     "SECOND PLACE MEDAL|THIRD PLACE MEDAL|BOXING GLOVE|MARTIAL ARTS UNIFORM|CURLING STONE",
     "LACROSSE STICK AND BALL|SOFTBALL|FLYING DISC|CROISSANT|AVOCADO|CUCUMBER|BACON|POTATO",
     "CARROT|BAGUETTE BREAD|GREEN SALAD|SHALLOW PAN OF FOOD|STUFFED FLATBREAD|EGG|GLASS OF MILK",
     "PEANUTS|KIWIFRUIT|PANCAKES|DUMPLING|FORTUNE COOKIE|TAKEOUT BOX|CHOPSTICKS|BOWL WITH SPOON",
     "CUP WITH STRAW|COCONUT|BROCCOLI|PIE|PRETZEL|CUT OF MEAT|SANDWICH|CANNED FOOD|LEAFY GREEN",
     "MANGO|MOON CAKE|BAGEL|YAWNING FACE|OVERHEATED FACE|FREEZING FACE|NINJA|DISGUISED FACE",
     "FACE HOLDING BACK TEARS|SARI|LAB COAT|GOGGLES|HIKING BOOT|FLAT SHOE|CRAB|LION FACE",
     "SCORPION|TURKEY|UNICORN FACE|EAGLE|DUCK|BAT|SHARK|OWL|FOX FACE|BUTTERFLY|DEER|GORILLA",
     "LIZARD|RHINOCEROS|SHRIMP|SQUID|GIRAFFE FACE|ZEBRA FACE|HEDGEHOG|SAUROPOD|T-REX|CRICKET",
     "KANGAROO|LLAMA|PEACOCK|HIPPOPOTAMUS|PARROT|RACCOON|LOBSTER|MOSQUITO|MICROBE|BADGER|SWAN",
     "MAMMOTH|DODO|SLOTH|OTTER|ORANGUTAN|SKUNK|FLAMINGO|OYSTER|BEAVER|BISON|SEAL|GUIDE DOG",
     "PROBING CANE|EMOJI COMPONENT RED HAIR|EMOJI COMPONENT CURLY HAIR|EMOJI COMPONENT BALD",
     "EMOJI COMPONENT WHITE HAIR|BONE|LEG|FOOT|TOOTH|SUPERHERO|SUPERVILLAIN|SAFETY VEST",
     "EAR WITH HEARING AID|MOTORIZED WHEELCHAIR|MANUAL WHEELCHAIR|MECHANICAL ARM|MECHANICAL LEG",
     "CHEESE WEDGE|CUPCAKE|SALT SHAKER|BEVERAGE BOX|GARLIC|ONION|FALAFEL|WAFFLE|BUTTER",
     "MATE DRINK|ICE CUBE|BUBBLE TEA|TROLL|STANDING PERSON|KNEELING PERSON|DEAF PERSON|ADULT",
     "CHILD|OLDER ADULT|BEARDED PERSON|PERSON WITH HEADSCARF|PERSON IN STEAMY ROOM",
     "PERSON CLIMBING|PERSON IN LOTUS POSITION|MAGE|FAIRY|VAMPIRE|MERPERSON|ELF|GENIE|ZOMBIE",
     "BRAIN|ORANGE HEART|BILLED CAP|SCARF|GLOVES|COAT|SOCKS|RED GIFT ENVELOPE|FIRECRACKER",
     "JIGSAW PUZZLE PIECE|TEST TUBE|PETRI DISH|DNA DOUBLE HELIX|COMPASS|ABACUS|FIRE EXTINGUISHER",
     "TOOLBOX|BRICK|MAGNET|LUGGAGE|LOTION BOTTLE|SPOOL OF THREAD|BALL OF YARN|SAFETY PIN",
     "TEDDY BEAR|BROOM|BASKET|ROLL OF PAPER|BAR OF SOAP|SPONGE|RECEIPT|NAZAR AMULET",
     "START OF HEADING|SOH|START OF TEXT|STX|END OF TEXT|ETX|END OF TRANSMISSION|EOT|ENQUIRY|ENQ",
     "ACKNOWLEDGE|ACK|ALERT|BEL|BACKSPACE|BS|CHARACTER TABULATION|HORIZONTAL TABULATION|HT|TAB",
     "LINE FEED|NEW LINE|END OF LINE|LF|NL|EOL|LINE TABULATION|VERTICAL TABULATION|VT|FORM FEED",
     "FF|CARRIAGE RETURN|CR|SHIFT OUT|LOCKING-SHIFT ONE|SO|SHIFT IN|LOCKING-SHIFT ZERO|SI",
     "DATA LINK ESCAPE|DLE|DEVICE CONTROL ONE|DC1|DEVICE CONTROL TWO|DC2|DEVICE CONTROL THREE",
     "DC3|DEVICE CONTROL FOUR|DC4|NEGATIVE ACKNOWLEDGE|NAK|SYNCHRONOUS IDLE|SYN",
     "END OF TRANSMISSION BLOCK|ETB|CANCEL|CAN|END OF MEDIUM|EOM|SUBSTITUTE|SUB|ESCAPE|ESC",
     "INFORMATION SEPARATOR FOUR|FILE SEPARATOR|FS|INFORMATION SEPARATOR THREE|GROUP SEPARATOR",
     "GS|INFORMATION SEPARATOR TWO|RECORD SEPARATOR|RS|INFORMATION SEPARATOR ONE|UNIT SEPARATOR",
     "US|SP|DELETE|DEL|PADDING CHARACTER|PAD|HIGH OCTET PRESET|HOP|BREAK PERMITTED HERE|BPH",
     "NO BREAK HERE|NBH|INDEX|IND|NEXT LINE|NEL|START OF SELECTED AREA|SSA|END OF SELECTED AREA",
     "ESA|CHARACTER TABULATION SET|HTS|PARTIAL LINE FORWARD|PLD|PARTIAL LINE BACKWARD|PLU",
     "REVERSE LINE FEED|REVERSE INDEX|RI|SINGLE SHIFT TWO|SS2|SINGLE SHIFT THREE|SS3",
     "DEVICE CONTROL STRING|DCS|PRIVATE USE ONE|PU1|PRIVATE USE TWO|PU2|SET TRANSMIT STATE|STS",
     "CANCEL CHARACTER|CCH|MESSAGE WAITING|MW|START OF GUARDED AREA|SPA|END OF GUARDED AREA|EPA",
     "START OF STRING|SOS|SINGLE CHARACTER INTRODUCER|SCI|CONTROL SEQUENCE INTRODUCER|CSI",
     "STRING TERMINATOR|ST|OPERATING SYSTEM COMMAND|OSC|PRIVACY MESSAGE|PM",
     "APPLICATION PROGRAM COMMAND|APC|NBSP|SHY|NULL|NUL|CGJ|ZWSP|ZWNJ|ZWJ|LRM|RLM|LRE|RLE|PDF",
     "LRO|RLO|NNBSP|MMSP|WJ|LRI|RLI|FSI|PDI|WEIERSTRASS ELLIPTIC FUNCTION|BYTE ORDER MARK|BOM",
     "ZWNBSP|VS1|VS15|VS16"])]

/-- The ideographs that are named by their number. -/
def ideographRanges : List (Nat × Nat) :=
  [(0x3400, 0x4DBF), (0x4E00, 0x9FFF), (0x20000, 0x2A6DF), (0x2A700, 0x2B738), (0x2B740, 0x2B81D),
   (0x2B820, 0x2CEA1), (0x2CEB0, 0x2EBE0), (0x30000, 0x3134A)]

/-- The number of an ideograph: four or five digits, capital letters only. -/
def ideographNumber? (t : Text) : Option Nat :=
  if t.length == 4 || t.length == 5 then
    t.foldlM (fun n c =>
      if c.isDigit then some (16 * n + (c.toNat - '0'.toNat))
      else if 'A' ≤ c && c ≤ 'F' then some (16 * n + 10 + (c.toNat - 'A'.toNat))
      else none) 0
  else none

/-- How Hangul syllables begin, sound, and end. -/
def hangulParts : List (List String) :=
  [["G", "GG", "N", "D", "DD", "R", "M", "B", "BB", "S", "SS", "", "J", "JJ", "C", "K", "T", "P",
    "H"],
   ["A", "AE", "YA", "YAE", "EO", "E", "YEO", "YE", "O", "WA", "WAE", "OE", "YO", "U", "WEO", "WE",
    "WI", "YU", "EU", "YI", "I"],
   ["", "G", "GG", "GS", "N", "NJ", "NH", "D", "L", "LG", "LM", "LB", "LS", "LT", "LP", "LH", "M",
    "B", "BS", "S", "SS", "NG", "J", "C", "K", "T", "P", "H"]]

/-- Is the text made of one part from each list, in order? -/
def isComposed : List (List String) → Text → Bool
  | [], t => t.isEmpty
  | parts :: rest, t => parts.any fun p => (after? p.toList t).any (isComposed rest)

/-- Is there a character of this name? -/
def isCharacterName (name : Text) : Bool :=
  let upper := name.map Char.toUpper
  (characterNames.any fun family =>
    (after? family.1.toList upper).any fun r =>
      family.2.any fun row => (row.splitOn "|").contains (String.ofList r)) ||
  ((after? "CJK UNIFIED IDEOGRAPH-".toList name).bind ideographNumber?).any
    (fun n => ideographRanges.any fun r => r.1 ≤ n && n ≤ r.2) ||
  (after? "HANGUL SYLLABLE ".toList name).any (isComposed hangulParts)

end Excerpt
