/-! Words that stand in many names of characters. -/

namespace Collation.Unicode.Name

/-- The frequent words. Two small letters tell the place of one: `aa` the first, `ab` the second,
and `ba` the one after `az`. -/
def frequent : String :=
  "LETTER WITH CAPITAL SMALL FORM ARROW SIGN RIGHT ABOVE ISOLATED RIGHTWARDS DOUBLE BELOW FINAL
   LEFT AND LEFTWARDS VERTICAL INITIAL THREE STROKE SYMBOL TRIANGLE-HEADED BLACK HORIZONTAL WHITE
   MARK MIDDLE HUNDRED DOWNWARDS THOUSAND BRACKET CIRCUMFLEX HEAVY TRIANGLE WEST-CREE GREATER-THAN
   TWO FOUR SQUARE HOOK EIGHT TIMES ONE DIAERESIS FIVE CIRCLE DOT ARROWHEAD UPWARDS SEVEN REVERSED
   LESS-THAN MEDIUM INVERTED POINTING MEDIAL YPOGEGRAMMENI MEEM PLUS PERISPOMENI EQUAL VOWEL LIGHT
   INDEX PUNCTUATION HALF DOWN PARENTHESIS TURNED TILDE DIGIT NINE LOWER MAKSURA FACE ACUTE ROTATED
   ORNAMENT DOTS PROSGEGRAMMENI VOCALIC SINGLE ANUSVARA OVER UPPER HARPOON RETROFLEX ALEF MACRON
   THUMB CIRCLED NUMBER ASTERISK DESCENDER DEGREES DIAGONAL DASIA SIX COMBINING PSILI RING OPERATOR
   CANDRABINDU RIGHT-POINTING BAR BARB CENTRE LARGE GRAVE LITTLE ZERO EXCLAMATION OPEN JEEM VARIA
   LONG COMMA TONE YEH DIAMOND QUOTATION BLOCK EQUILATERAL LEFT-POINTING HIGH TRIPLE LIGATURE BREVE
   STOP HAND-FIST VISARGA CROSSING ANGLE LATIN SHORT POINTED ANTICLOCKWISE SQUARED MODIFIER VIRAMA
   TWENTY SEVENTY SANS-SERIF MOVEMENT-FLOORPLANE QUESTION LINE QUARTER ACCENT LOW TRIANGULAR NORTH
   ABBREVIATION MOVEMENT-WALLPLANE EAST DOTTED NINETY SEPARATOR OXIA CROSS HAH HITTING CARON
   CONSONANT INTERSECTION ALTERNATE STAR EQUALS CLOSED ALTERNATING CEDILLA PALATAL SOUTH UNDERBAR
   UPSILON TAIL GLOTTAL DIGRAPH TEN YENISEI STRAIGHT SUPERSET HAND-CIRCLE KHAH WEST GUNU BOTTOM
   CORNER C-SIMPLIFIED FULL HAND-HINGE EPSILON OMEGA NGA SHA HAMZA IDEOGRAPHIC ORKHON SOLIDUS
   SECTION FINGERS CONJOINED KNIGHT OVERLAY CHA DOWN-POINTING MULTIPLICATION NYA EIGHTH UP-POINTING
   ALPHA KHA FIFTY FRACTION INTEGRAL EQUIVALENT VARIANT SLANTED NEUTRAL ARCHAION RAISED SUBSET
   CHESS TTHA COLON REVERSE SUPERSCRIPT COPTIC THA DASH DOUBLE-STRUCK TENU TORTOISE NOT DDHA DANDA
   SCRIPT NOON HEART DAGESH ARCHAIC PHA OLD IOTIFIED AVAGRAHA SYLLABLE THIRTY DIALYTIKA OMICRON
   INSULAR CURLY SIGMA HORN TACK ARABIC-INDIC HAND-ANGLE QUARTERS TTA NEGATIVE QUADRANT GREEK THETA
   DDA NUKTA CRYPTOGRAMMIC CLOCKWISE BETWEEN SMILING FORWARD DHA NUN GHA SHELL CYRILLIC DIAMONDS
   IOTA ARABIC INSIDE MAHAAPRAANA SIMALUNGUN FROM HAND TWO-HEADED SEMICOLON CROSSED-TAIL ASH NNA
   TELEPHONE SHIN BENT BHA SPOKED SPACE GAMMA OBLIQUE MULTIPLE EIGHTHS PRECEDES SUCCEEDS SHADOWED
   TEARDROP-SPOKED BOLD SHAFT TOP ALPAPRAANA VERY QUADRUPLE MOUTH HEARTS DOTLESS SEEN SSA THROUGH
   NOTEHEAD DELTA ALMOST SAMEKH ARROWS MOON PERSON HINGED SIDE FOR WAW THE APOSTROPHE TONOS LAM
   SHEEN PRODUCT LOGICAL OVERBAR LOZENGE CROSSED LEFT-STEM CIRCLES ROTATION-FLOORPLANE CHARACTERS
   OGONEK CANDRA JHA LENGTH EIGHTY INDEPENDENT KATAKANA LAMEDH MINUS KAPPA FORTY CURVE
   ROTATION-WALLPLANE SHE MUSICAL DISH KRYZHEM POVYSHE BULLET TWELVE SPADES AIN GHAIN CHARACTER
   SIXTY SOUND UNION ITERATION KATAKANA-HIRAGANA ALEPH CURL WAVE LEAF LENTICULAR TWELFTHS
   COMPRESSED REH GIMEL RISING CARRIER SLASH DASHED FIFTEEN SALTIRE QUEEN KLYUCHEVAYA SPREAD EYES
   END KAF TSA NOTE AMPERSAND INDICATOR YUS THOUSANDS ABKHASIAN HEH SADHE SIDEWAYS MAHAPRANA
   TURNSTILE EXTENSION SEVENTEEN EIGHTEEN SHADE ENVELOPE PINWHEEL DIALECT-P CRESCENTS ZAPYATAYA
   HYPHEN Y-CREE TEDUNG MATHEMATICAL ELEVEN DIFFERENTIAL BISHOP SUBSTITUTION KASKAL OCLOCK NUMERAL
   BETA TAH ROUNDED HEAD VERTICALLY SIXTEEN NASKAPI SVARITA ELEMENT CONTAINING INVERSE LAMDA RHO
   ZAYIN LLA GAR BOX EARTH NEPOSTOYANNAYA NEO CLUBS LOOP KING REST GAN2 QAF JIHVAMULIYA UPADHMANIYA
   ITALIC CURVED SINGLE-LINE DOUBLE-LINE IGI DIVISION OVERLINE EXTENDED ELLIPSIS CONTAINS PARALLEL
   SUBGROUP NOTATION THIRTEEN FOURTEEN NINETEEN MOUNTAIN OPPOSING SVETLAYA DODEKATA MOVEMENT
   BACKHAND PHI POINT KASRA SUBSCRIPT BETH LEFT-TO-RIGHT BACKSLASH THIRD APPROXIMATELY CEILING
   RECTANGLE WATER NOTCHED ICHOS LARGEST BAMBOOS CHI CHE BARRED VOICED LUNATE KOMI KAPH SHAD TONE-2
   TONE-5 NORMAL BESIDE DALETH TAK4 GISH EQUIHOPPER PRIME ROUND FEH FATHA SAD RTAGS BLACK-LETTER
   CHECK LAGAB WRIST FISHHOOK CENTRED MILLIONS ZAIN HETH WORD ZHA TSHA CHIEUCH KHIEUKH THIEUTH
   PHIEUPH KOET PLASTICS OUTLINED JAPANESE AIRPLANE SUBUNIT STATERS YODH SHESHIG WRINKLED CLICK ETA
   SIXTEENTH TSHEG SUBJOINED TONE-3 MAN HANGUL FILLER SAYISI MURDA INTERROBANG THIRDS NUBIAN BUBBLE
   EXTREMELY SOFT CENTRALIZATION QUAD FILL RIGHT-SHADOWED GROMOPOVODNAYA BEH RRA COMMERCIAL SCHWA
   ZETA MEM RESH DAMMA TEH DAD GEMINATION SIDDHAM CARET BIRGA RIGHT-TO-LEFT SEMICIRCLE SEMIDIRECT
   FLOOR PARENTHESIZED FALLING SIMILAR EGYPTOLOGICAL TALENTS BAD SHAR2 ZIGZAG MARKER FATHATAN
   ATTACHED KIYEOK TIKEUT INFINITY PAIRED CRESCENT MONOGRAM SCISSORS DRAGON HIRAGANA LONSUM
   THESPIAN SECANT KHOKHLOM ZAPYATOY HAND-CUP FINGER ANTIMONY ESH TAU GHE HYPHEN-MINUS YANG
   RIGHT-FACING AYIN THEH CANCELLATION RIEUL-KIYEOK MIDDLE-WELSH ROOK PAWN FLAG BALL J-SIMPLIFIED
   BACK LEG PSI MADDA PARAGRAPH KAREN IEUNG CIEUC PIEUP-SIOS-TIKEUT VARIATION FIRST IMAGE UNDER
   HORSE HANDS KUR GESH2 KENTIMATA HAND-OVAL HAND-HOOK EYEGAZE-WALLPLANE SUBLIMATE DOLLAR BELT
   JOINER DIGAMMA ZHE YERU IZHITSA LEFT-FACING TAW SHAN WITHIN POWERS THO TONE-4 SSANGKIYEOK
   SSANGTIKEUT RIEUL-HIEUH NIEUN-CIEUC NIEUN-HIEUH RIEUL-MIEUM RIEUL-PIEUP WALL PARTIAL ARC CORNERS
   BALLOT FIRE WIND APPROXIMATE IOTATED DIVIDER TUAREG SECOND SPEECH TONGUE TWENTY-FIVE"

end Collation.Unicode.Name
