/-!
# Data of character names

The names of the Unicode standard (version 14) by which a character may be written in a
string escape, without the families whose names are made from the code point.

* `nameWords`: the words of the names, blank-separated, most frequent first.
* `nameText`: the names by code point. `!h` (hexadecimal) sets the code point of the next
  name; every name is one code point after the previous one otherwise. A name is a sequence of
  word codes: a character among the first 40 of the code alphabet is a word index by itself;
  one of the next 20 starts a code of two characters, one of the last 4 a code of three.
* `aliasText`: further names of characters, as `h=NAME` with underscores for blanks.
-/

namespace StubDoctest.Text

/-- The alphabet of word codes. -/
def codeAlphabet : String := "0123456789ABCDEFGHIJKLMNOPQRSTUVWXYZabcdefghijklmnopqrstuvwxyz#&"

/-- The words of character names. -/
def nameWords : String :=
  "LETTER SIGN WITH SMALL SYLLABLE CAPITAL HIEROGLYPH LATIN ARABIC YI CUNEIFORM SYMBOL MATHEMATICAL EGYPTIAN DIGIT FORM VOWEL TANGUT CANADIAN SYLLABICS A SIGNWRITING TIMES BAMUM AND BOLD ANATOLIAN ARROW HANGUL NUMBER LINEAR COMBINING LIGATURE GREEK ETHIOPIC MUSICAL OLD RIGHT ABOVE LEFT FOR CYRILLIC MARK SQUARE ITALIC CIRCLED RADICAL SANS-SERIF U ONE FINAL DOUBLE TAI O TWO BLACK E BELOW I DOT VAI MODIFIER B WHITE HENTAIGANA THREE TO VARIATION PATTERN BRAILLE BYZANTINE KATAKANA STROKE ISOLATED OF HEAVY MIDDLE MYANMAR FOUR KANGXI KIKAKUI MENDE HOOK VERTICAL TIBETAN FIVE CJK INITIAL MEEM HMONG KA RIGHTWARDS YEH COPTIC ZNAMENNY CARRIER PLUS UP R S BOX SQUARED GEORGIAN CHEROKEE FACE MONGOLIAN INDEX LOWER DEVANAGARI LEFTWARDS HALF L PHASE-E BLOCK UPPER DOWN EIGHT SIX ALEF BAR CIRCLE MIAO LIGHT VOCALIC KHMER TILE DRAWINGS DUPLOYAN SEVEN BRACKET HA PARENTHESIZED THAM GONDI HUNDRED LOW NINE TONE JONGSEONG DOTS GLAGOLITIC HEBREW HIGH TAMIL THUMB MALAYALAM OVER SIYAQ PAHAWH CHOSEONG BALINESE PA HAND-FIST N HALFWIDTH MEROITIC RA SCRIPT IDEOGRAPHIC RING TURNED IDEOGRAM PHASE-D ALCHEMICAL EQUAL HAH NEUME BRAHMI MA LA LONG THOUSAND HORIZONTAL NA NUMERIC TRIANGLE M OPEN SINHALA YA TA HUNGARIAN DOWNWARDS MEDIUM SA TILDE BARB DIAGONAL NORTH TAG UPWARDS DA FULLWIDTH G JEEM GA PUNCTUATION T DOMINO K TELUGU CYPRO-MINOAN FRAKTUR V FRACTION MEDIAL NEGATIVE PHASE-C SIDDHAM BHAIKSUKI D DOUBLE-STRUCK H NEWA ARMENIAN BENGALI CHESS SHARADA CHARACTER HIRAGANA JUNGSEONG OR Z ACUTE BA LARGE Y ZERO GUJARATI IDEOGRAPH JAVANESE MEDEFAIDRIN ORIYA CURSIVE KANNADA SYRIAC WEST-CREE AA RUNIC TANGSA ADLAM CONSONANT SOUTH C CARD NEW PHASE-A THAI REVERSED GRANTHA P SOGDIAN X CITI LUE MOVEMENT-WALLPLANE SUBJOINED WARANG CHAM DASIA PLAYING SOYOMBO TEN LAO SAURASHTRA TIRHUTA AI CIRCUMFLEX SINGLE TETRAGRAM W DESERET GURMUKHI HAMZA II J MAYEK MEETEI MODI NOTATION PSILI INDIC NUMERAL POINTING GA2 MOVEMENT-FLOORPLANE TRIANGLE-HEADED ARROWHEAD DIAERESIS NGA AU BOPOMOFO MASARAM JA LAM LEPCHA SHA STOP UU CA OMEGA TURKIC " ++
  "VIET WA AKURU ALPHA DIVES F OSAGE SHORT SUNDANESE ZANABAZAR CHAKMA LITTLE NYIAKENG PUACHUE APL FUNCTIONAL GRAVE LINE VITHKUQI KHUDAWADI MAKSURA TELEGRAPH ACCENT KAITHI KHAH KHAROSHTHI LIMBU MACRON MARCHEN NOON ON TAKRI CHA INVERTED CENTRE KHA NOT NYA AHOM LI NANDINAGARI ORNAMENT ARABIAN HARPOON HEXAGRAM ROTATED ANGLE EAST GUNJALA IN LAGAB KHOJKI MONOSPACE NKO OXIA SAMARITAN VARIA COMMA OTTOMAN TAIL THA DOGRA GREATER-THAN LESS-THAN Q STAR TRIPLE NUN TIFINAGH WANCHO HAU AEGEAN BREVE CIN INSCRIPTIONAL PAU ASH BATAK EN ETA GUNU PAHLAVI PHAGS-PA PHASE-B AVESTAN CYPRIOT PHA VA WEST HITTING IOTA PHASE-F ACROPHONIC ALBANIAN ANUSVARA CAUCASIAN DEGREES PERSIAN TEH CROSS FULL PI ROMAN UNIFIED KAYAH MANICHAEAN ROHINGYA SEEN TTA DDA HANIFI KAF THAANA ZA CARIAN DISC HEH LE LISU MOUTH OL TWENTY CHIKI DHA OO SHAVIAN UPSILON VEDIC DIAMOND GHA OPERATOR PE PERISPOMENI TOP YEZIDI ASTERISK MTAVRULI PARENTHESIS PHAISTOS SHAN SHE AIN BEH CARON NAGRI NNA SYLOTI BHA CLOSED MAHJONG OE SHEEN THE ALI GALI MRO PERMIC DOTTED EE NEUTRAL ORKHON RETROFLEX TTHA WAW DASH FA HE TENU VIRAMA WIDE-HEADED ALTERNATE ARCHAIC BASSA DDHA DESCENDER ELBASAN MU NABATAEAN NO OSMANYA RR SSA SUBSCRIPT TAH YU CURVE MAHAJANI EIGHTH EPSILON FEH MULTANI NINETY QUARTER REH SECTION VISARGA YPOGEGRAMMENI AN BOTTOM CORNER HI INSTRUMENTAL POINTED REJANG TE VAH CURLY EQUALS FROM JHA LU2 QAF SIDE STRAIGHT ARABIC-INDIC FIFTY GLOTTAL LL NE NI SOMPENG SORA TACK CANDRABINDU DUG HORN ME RAISED SAD SEVENTY STRELA AE INDICATOR PRESENTATION SHIN WAVE AFFIX COLON CROSSING DAD DAY DINGBAT HIEROGLYPHIC IGI NU PALMYRENE SHELL VARIANT YO ARAMAIC DIGRAPH END EZEN FINGERS HAND HAND-HINGE IMPERIAL RUMI TOTO UGARITIC VERY YENISEI YUS BENT BUGINESE DANDA HEART MI OMICRON PARTHIAN QUOTATION THIRTY TSA CEDILLA CONJOINED GAR KISIM5 LOGICAL LYCIAN MANDAIC MOON OGHAM PALATAL PHOENICIAN PSALTER QUESTION SAG TODO VESSEL VOCAL CHORASMIAN EPACT HEAD KNIGHT PROSGEGRAMMENI RHO SLANTED SUPERSCRIPT UD AT CLOCK DAG FORTY GOTHIC HAND-FLAT HO LLA LOOP LOOPED " ++
  "LYDIAN NEO NINDA2 NOTE POINT URU BETWEEN BU CHI EXCLAMATION EYES GHAIN HATRAN HOUR LAING LU REGIONAL RO SEPARATOR SHAFT SIGMA SO SUBSET SUPERSET TORTOISE UYGHUR WE INTEGRAL KHAMTI KO MAKASAR NOTEHEAD NUKTA PHI QUAD STRETCHED THETA TU UNDERBAR ATTIC CHE DAGESH EQUILATERAL GI INDEPENDENT KI QUADRANT RIGHT-POINTING SMILING SOLIDUS THEH WO ALTERNATING DISH EL ELYMAIC OVERLAY RU SI SIBE TAGALOG UE WORD ARM C-SIMPLIFIED CURL DE EXTENDED GAMMA GAN2 GISH KU LEAF MAI MAN MO PERSON SE SPACE SU TRIANGULAR WI ZE ZHA AB ANTICLOCKWISE ATTACHED DOTLESS HANUNOO KE MANCHU MINUS REVERSE THO TIP ARC BUHID CLAN CURVED DELTA DO HINGED INSULAR LEFT-POINTING LEG LO MAYAN NG QA RRA UNION AB2 ABBREVIATION ANNOTATION ARCHAION BAD BETA BI DAL DI DU ESH INSIDE KUR MEM RED SIDEWAYS TI TONOS TWO-HEADED VULGAR BLACKFOOT COUNTING EM FILL FLOOR FORWARD FTHORA GHE GURAGE HAND-ANGLE INTERSECTION KAPPA KAREN KING PAP PO RE REST ROD SPOKED TAGBANWA TAU WALL AL ALEPH ARROWS BETH CEILING CIRCLES DIALYTIKA GU GUD HAND-CIRCLE HEARTS IE MUSH N-ARY OBLIQUE PSI SAYISI SIXTY SOUND TAW TONGUE UP-POINTING VE ALMOST AVAGRAHA CIM CLOCKWISE EARTH GIMEL IOTIFIED KAPH KOMI MOVEMENT-DIAGONAL OUT QUEEN RI ROTATION SADHE SAMEKH SHAD SHESHIG SLASH SPREAD SUN TAILED TAK4 YE ZAIN ZHE BE BIG CANDRA DENTISTRY EIGHTHS EIGHTY EMPTY EQUIVALENT ER HAND-CUP HETH IM KASKAL KOET LAGAR LAMEDH LENGTH MGO NASKAPI OGONEK QUARTERS RISING ROC ROTATION-FLOORPLANE ROTATION-WALLPLANE ROUNDED SHADE SHU THROUGH TSHA TWELVE U2 XA XI YODH AS BIRGA BULLET CAN CHECK CLUBS DIAMONDS FARSI FATHA GO HU HUMP KASRA LAMDA NOR NUNUZ NYI PWO SARA SHADDA SOFT SPADES TONAL TSE WATER WRIST XIANGQI ZAH ZAYIN ANG BALLOT BINDU CAT CROSSED DASHED DOWN-POINTING DZA ELEMENT ET ICHOS LOZENGE MARTYRIA MINNAN MON MULTIPLE MULTIPLICATION OM OVERBAR PADA PALI POVYSHE PRECEDES PRODUCT PU RESH ROUND RTAGS SHADOWED SHIM SUCCEEDS THIRD WOODS-CREE ZETA AH AY AYIN BACK BALL BISHOP BO BY CO DESCRIPTION DOES E2 ELEVEN ENG EZH FE FLAG HANGZHOU HYPHEN JE KEHEH KHO KRYZHEM LAL " ++
  "LUM MEASURED MURDA NATTILIK NUBIAN OCLOCK OJIBWAY PAWN PRIME ROOK SEMICOLON SHA3 SHAR2 TEDUNG TELEPHONE UNIT UR2 USH WIDE Y-CREE YANG YIG ZIGZAG ZO ZU BELT BESIDE CHO CLICK DAMMA ES FI FIFTEEN FIRE FO HAA INVERSE JO KIEVAN KIRGHIZ KLYUCHEVAYA KRYUKOVAYA LAK-617 LEK MADDA MEN NOSE OCR PHO QUADRUPLE RAYS RIBBON SALTIRE SCHWA SHO SIMALUNGUN SKAMEYTSA STATYA STEM TENS TETH TSHEG WAVY WIDTH WIND WU YERU ZI ALPAPRAANA AM ASH2 ATTAK BARRED BRACKETED BUT CARET CHINESE CLEF CLOUD CURRENCY DALETH DOUBLE-LINE DYNAMIC DZ EF EH ESH2 EYE FINGER FISH FLEX GAD GAF GE HAND-HOOK HARD HORA KAK LAK-648 LEFT-STEM LITH LUNATE MAHAAPRAANA MALE NORMAL NOTCHED PAGE PARALLEL PREFIXED RDEL RECYCLING SAL SALT SEGMENTED SIMILAR SIXTEEN SVARITA TAB THESPIAN TICK TONE-2 TONE-5 TRAVEL-WALLPLANE TREE TWELFTHS UNDER VO VOICED WESTERN YOD APOSTROPHE ASTROLOGICAL BAMBOOS BARREE BUBBLE BUR CE CENTRED CHARACTERS CHILLU CIEUC CONTAINING CONTAINS CROSSED-TAIL CRYPTOGRAMMIC DIGRAM EI EIGHTEEN EMOJI ENVELOPE EU FILLER FIRST FRONT FU GAL GESH2 HANDS HHA HORSE IEUNG IMAGE ITERATION KAVYKA KEY LARGEST METRICAL MONOGRAM NEITHER NYO PEE PEH PINWHEEL RECTANGLE REFORMED REPEAT RHA SANDHI SECOND SET SHU2 SLOAN SUIT TEXT THEN THIRDS TONE-3 UM UN UR VI VINE YAT YIN ABKHASIAN AGOGI AIRPLANE AMPERSAND ANO AWAY BACKHAND BEGIN BLUE BUD CAR CHIEUCH COMPRESSED CRESCENTS CUM DIALECT-P DIE DIVISION DODEKATA DRAGON DZE ELLIPSIS ENDING ETH EXTENSION FIGURE FISHHOOK FOURTEEN GOAL GREEN HAND-CLAW HAND-OVAL HIEUH HUB2 ICE JAPANESE JI JOT KHIEUKH KIYEOK LENTICULAR LHA LIMB LIPS LOCATION LOGOGRAM LONSUM MAHAPRANA MARKER MFON MIEUM MOUNTAIN MOVEMENT NAGA NAME NIEUN NINETEEN NIZKO NJE NUNAVIK OPPOSING OU OVERLINE PAIRED PHARYNGEAL PHIEUPH PIECE PIEUP PROLATIONE QOPH RIEUL RUPEE SASAK SECANT SEVENTEEN SHEI SIMANSIS SIOS STAFF STATERS STICK SUBGROUP SUBUNIT SUKUN SVETLAYA TEMPUS TH TH-CREE THAL THIEUTH THIRTEEN THORN THOUSANDS TIKEUT TOWARDS TRIGRAM TUAREG TUG2 TURNSTILE VEE VERTICALLY VRAKHIYA WOMAN ZAPYATAYA AD ANGLED ARKTIKO " ++
  "BACKSLASH BAN2 BBA BELL CHEST DAGGER DIATONIKI DIESIS DIGA DIM DIPLI DOLLAR DUN3 EAR ENCLOSING EYEBROWS FALLING FATHATAN FEE FITA FLAT FOLDER GAN GI4 GIR2 GU2 HAIR HAT HEEL JOINER JU KATAKANA-HIRAGANA KATO KET LUGAL MALO MASH MEASURE MID MILLIONS MOUSE MOVEMENT-HINGE NASALIZED NGO ODD OPENING ORE OUTLINED PLACE PLASTICS POWERS RAIN SEE SH SHARP SHIMA SHOE SHWE SPEAKER SPEECH SPIRAL SURROUND TAA TALENTS TALLY TAM TAR TCHEH TEARDROP-SPOKED TEETH TENSE TET THI TIR TONE-4 TRAVEL-FLOORPLANE TSI VOS VU WITHIN WRINKLED YFESIS -A AEN AIR AITON AK ANTIMONY APPROXIMATELY AV BABY BARLINE BEE BEND BET BLACK-FEATHERED BOOK BOW BRIDGE BROKEN BRUSH BURU BUTTON CHEEKS CONTACT CONTROL COPPER CORNERS CRESCENT CUPPED DEE DIFFERENTIAL DIGAMMA DIVIDER DOG DRUM DUB DVOECHELNAYA EAT ECH EK ENY EPIGRAPHIC EQUIHOPPER ERIN2 ERROR-BARRED EVEN EXTREMELY FEMALE FLICK GANGIA GAP GGA GIR3 GLASS GREAT GROMOPOVODNAYA HAL HAR HIP HOLDING HOOKED HORI HOUSE IMPERFECTA INFINITY IOTATED IS IZHE IZHITSA JEE JIHVAMULIYA KAI KAN KEN KHEI KHOKHLOM KISS KNIFE KOPPA KU3 KUSHU2 LAK-449 LEIMMA LLLA LOO LU3 MBAA MUSH3 MYA NAA NABLA NARROW NDA NET NHA NJI NUMERATOR ORANGE OSOKA OTTAVA PALM PARTIAL PEAKS PEN PIRIG POSITION POWER RADI RAE REPA RICE RUSSIAN SAMPI SAN SAR SCISSORS SHARU SHI SHID SHIR SINGLE-LINE SIXTEENTH SPLIT SQUEEZE STILE SUBSTITUTION SUM SUNG SWASH TALL TATWEEL TEE THAN THREE-D TIE TOO TROEZENIAN TTEH TUR UA UK UPADHMANIYA URUDA VAV VOLAPUK VRACHY VYSOKO WEIGHT WIGGLY XE YAA YEE YN ZAPYATOY ADEG AFRICAN ALAYHE ALL ALLAAHU ANUDATTA APLI AQ BAHAR2 BAL BARS BBE BEEH BEHEH BLACK-LETTER BOARD BREATHY BUILDING CASKET CHARIOT CHART CHRIVI CIRCULAR CLOSING CLUSTER-INITIAL COMMERCIAL COW CUBED CUP CURVING DAMMATAN DHE DISK DKAR DOACHASHMEE DOCUMENT DOUBLED DYEH DZHA EC ELAMITE EO ERA EYEGAZE-WALLPLANE EZ FACING FENCE FILE FITZPATRICK FLATTENED FLOURISH FLOWER FRANKS FREE GAA GEE GEMINATION GESHU GHUNNA GOLUBCHIK GORAZDO GORGON GRINNING GTER GUEH HALF-CIRCLE HENG HIE HOO HOT IDIM IMPERFECTUM INPUT " ++
  "INTERROBANG IR IU JIL JJA JOINED KAD3 KAL KANA KASRATAN KENTIMATA KEYBOARD KOMBUVA KOO KOREAN KPA KSSA LAA LAME LEFT-HAND LEFT-TO-RIGHT LIGHTNING MAP MARK-1 MARK-2 MBA MECHIK MEDAL MOBILE MONKEY MUCH MV MYSLITE NAG NAR NASAL NDOLE NEPOSTOYANNAYA NESTED NGGA NGOEH NJEE NN NNNA NOTES NYEH OA OH OI ONCOMING ORIGINAL OVAL OVERLAPPING OW PAD PARAGRAPH PARESTIGMENON PATH PEHEH PENTAGON PER PERCENT PII PLUTO POINTER POLE PON POO PRIZNAK PWA QAR QI QU RAA RANGE REE REPETITION RETURN RNOON ROCKET ROOT ROTUNDA SCREEN SELECTOR SEMICIRCLE SEMIDIRECT SHOULDER SII SIMPLIFIED SMILE SOO START STRESS SUBLIMATE SUMMATION SWIRL TALING TCHEHEH TEHEH THAA THEE THESEOS TINY TITLO TONE-1 TRAFFIC TRIDENT TTE TTEHEH TUM TURTLE TWE U-SHAPED UIGHUR UMBRELLA VEH WAA WALK WAY WITHOUT WOO YAE YAJURVEDIC YELLOW YEN YER YOT ZEE ZEN AC ACE AG ALAYHI ALTA AMAR AO APPROXIMATE AQUA ARROW-TAIL ARROWHEADS ARSEOS AS-SALAAM BAA BAG BALAG BAN BANKNOTE BASE BEAMED BHE BIRD BONE BOTTLE BOWTIE BULUG CAMERA CANCELLATION CANTILLATION CAP CENTRALIZATION CHAR CHECKER CHEE CHIN CHROMA CHU CI CIL CLUSTER-FINAL COMPONENT CROP CUATRILLO CUSP DALET DANG DDDA DEGREE DEL DELIMITER DEVICE DEZH DIASTOLI DIGORGON DIN DIRECTION DJE DLA DON DOWNWARD DRAUGHTS DREAMY DYO DZELO EASTERN EGYPTOLOGICAL EIE EKFONITIKON ELECTRIC ELLIPSE ENC ENT EP ERR EX EXTRA-HIGH EXTRA-LOW EYEGAZE-FLOORPLANE FAA FEATHER FINGER-POST FIXED-FORM FLOPPY FLORETTE FOOD FOOT FORK FORMAT FOURTH FRAME FROWN FROWNING GABA GBE GHAN GLOBE GOLD GRASS GROMNAYA GROMOKRYZHEVAYA GUR HAE HAMMER HAND-CURLICUE HEADED HEAVEN HEE HELMET HOE HOURGLASS HP HV HYPHEN-MINUS IA IDENTICAL IMIN INSERT INTEGRATION IRON ISOLATE ISOSCELES J-SIMPLIFIED JACK JHAN JOIN JOKER KAA KANG KAPA KENTIMA KHAR KHI KID KISSING KK KLASMA KM KNUCKLE KPO KRYZH KSI KUL KUT KWAA KWE KWI KYEE LAI LAMED LAS LEE LEFT-FACING LENGA LENGTHENER LEZH LIP LJE LOCK LONGA LOQ LOTUS LOW-FALLING MAILBOX MARBUTA MBE MBEE MCHU MEAT MEMBER MERCURY MIDDLE-WELSH MIM MIN MM MONOCULAR MUG MUSIC MWA MWI NDAA NDE NDU " ++
  "NGAA NGI NIEUN-CIEUC NIEUN-HIEUH NIGHT NIKOLSBURG NOW NTAP NTEUM NWA NYAM NYIS OBOLS OHM OIL OK OOU OT OX PAA PALAUNG PAPER PAR PARENTHESES PATAH PEDESTAL PENCIL PENTAGRAM PERFECTA PHAR PHONE PIEUP-SIOS PIG PLA POETRY POLICE POSTAL POT POUND POVODNAYA PROSTAYA PWI QAMATS QE QO QUILL QUILT RAD RAFE RAILWAY RAM RAT RECEIVER REGULUS RELATION REN RIEUL-HIEUH RIEUL-KIYEOK RIEUL-MIEUM RIEUL-PIEUP RIEUL-SIOS RIGHT-FACING RIGHT-HAND RIGHT-SHADOWED RIGHT-TO-LEFT RII RUB RUDIMENTA RUM SAA SANYAKA SATANGA SCAN SEBATBEIT SEQUENTIAL SERIFS SGAW SHAKING SHEE SHHA SHII SHITA SHOGI SHORTHAND SHORTS SIG4 SILHOUETTE SIN SIXTEENTHS SKEWED SLIGHTLY SLOZHITIE SNAKE SOUTH-SLAVEY SPIRIT SQUARES SQUIGGLE SS SSANGCIEUC SSANGKIYEOK SSANGPIEUP SSANGSIOS SSANGTIKEUT SUKU SUR SUU SVASTI SWEAT TAN TESH THIN THUMBS TIGER TIKHAYA TILTING TOGETHER TONE-6 TONE-8 TOOTH TOPBAR TRESVETLAYA TROMIKON TS TSO TSU TTHO TURN TWENTY-FIVE TYPE UC UDATTA UI ULU UMUM US VANE VIN WASLA WEE WHEEL WINE WOMANS WYNN XAN XYEEM YAH YERI YIDDISH YOO YOQ YUT YYA ZAL ZATA ZHAR ZHEE ZZA -KHYIL A2 AELA-PILLA ALIF ALLO ALTERNATIVE ANGER ANJI ANSHE APOSTROFOS AR ARISTERA AROUND ASHGAB ASSYRIAN AW AXE AYB AZU BACK-TILTED BACKSLANTED BALLOON BALLOON-SPOKED BAMBOO BANK BAT BATH BAYANNA BEAVER BEHIND BEI BEN BILABIAL BLACKLETTER BOLT BOWL BRANCH BREATH BRICK BROWN BUBBLES BUKY BUON BUS BZHI CAA CAKE CALENDAR CALL CARIK CASTLE CCHE CHASHKA CHICK CHILD CHRISTMAS CHROA CHRONON CLIFF CLOSE CLOTH CLOTHES CLUB CM COLD COMPLETION COMPOSITION COMPUTER CONCAVE-SIDED CONSTANT CONSTRUCTION CONTAIN CONTOUR COO COUNCIL COVER COVERING CREDIT CROCUS CRYING CU CUBE CURRENT CUT CWA CWAA CWI DAHAL DANTAJA DAP DAYANNA DDAHAL DDAL DDAYANNA DDO DECIMAL DEER DENE DENTAL DEPARTING DESCENDING DIM2 DIRECT DIVIDE DIVIDED DJERV DJERVI DM DOBRO DRACHMA DRY DUL DUN DWE EA EB ELEPHANT ENCLOSURE ENN ENTRY EPIDAUREAN ETERNITY EV EW EXO EYELASHES FACTOR FANEROSIS FAX FEED FENG FERMATA FIFTH FIFTHS FINGERED FIST FLEURON FLORAL FLY FLYING FOM FOO FOREHEAD FORMEE " ++
  "FORTY-FIVE FRITU FROG FRONT-TILTED GATHERING GAYANNA GAYANUKITTA GBA GBU GEAR GERESH GESHTIN GGE GHHA GHOST GIM GJE GLAGOLI GRACE GRASP GSUM GUM HALANTA HARKLEAN HATAF HEADSTROKE HERMIONIAN HERU HEXAGON HLI HNA HOLAM HON HUMAN HUNDREDS HWE IB IC ICON IH INCREASE INFORMATION ING INI INSERTION INTERLINEAR INVISIBLE IO IQ ISH ISON IT IY JAYANNA JEGOGAN JEH JONA JOY KA2 KAD5 KAKO KAPYEOUNMIEUM KAPYEOUNPHIEUPH KAPYEOUNPIEUP KARO KATHAKA KAY KEE KEH KETTI KHE KHUEN KIN KIYEOK-SIOS KKA KNUCKLES KOI KORONIS KRATIMA KUOP KW KWA KXA KYA LAAM LAKH LAP LAST LAZY LEADER LEATHER LEERAEWA LEFT-SHADED LET LETTERS LH LIMMU LINES LISH LJUDIJE LOVE LUH LUL LWA LY MAA MACHINE MAEM MAEMBA MANDAILING MAPIQ MASK MB MBI MBIT MBO MBOO MBU MEDIEVAL MEE MEEEE MEGA MES MEUT MID-LEVEL MIEUM-PIEUP MIEUM-SIOS MILITARY MINIMA MIT MNAS MONOGRAPH MONTH MOO MOOD MOUND MRACHNAYA MULTIMAP MULTISET MUOY MUURDHAJA MWAA MWE N-CREE NAH NASALIZATION NASHI NATURAL NDAP NDEE NDI NDO NEE NEN NEWLINE NGGE NGGEN NGGO NGGOO NGGU NGOM NIEUN-SIOS NIEUN-TIKEUT NIM NIN NJAEM NJU NO-BREAK NOO NRA NSHA NSHUT NTEE NUNG NV NWAA NYE NYET NYU NZA OFFICE OLDER ONU OP OPEN-HEADED OPPOSITION OQ OUTER OVERLAID OVERLAP OXEIA OY PAN PANSIOS PARAGRAPHOS PARAKALESMA PARAKLITIKI PART PARTY PAW PEACE PEDAL PEPET PERFECTUM PERPENDICULAR PEUX PHE PICTURE PIEUP-CIEUC PIEUP-SIOS-TIKEUT PIEUP-TIKEUT PING PIWR PLACEHOLDER PODCHASHIE POKOJI POLISH POMMEE POP POST POUTING PRAM PRAM-BEI PRAM-BUON PRAM-MUOY PRAM-PII PREGNANT PRISHTHAMATRA PTHAHA PUAE PURPLE PUSHPIN PUT PWAA PWE QAA QAAF QOF QOO QUO QUU RACING RAP RATHA REPEATED REUX RIEUL-PHIEUPH RIEUL-THIEUTH RIEUL-TIKEUT RIGHT-SHADED RISH RITSI ROCK ROG ROSETTE RREH RUNNING SAFETY SAM SAT SAW SAYANNA SCHEMA SCHOOL SEAL SEGMENT SEGOL SEMI-VOICED SEMIBREVIS SEMICIRCULAR SEMIMINIMA SEUX SHADED SHCHA SHEEP SHESH SHIELD SHIP SHOO SHOQ SHTA SHWA SILK SIMA SIOS-CIEUC SIOS-KIYEOK SIOS-PIEUP SIOS-TIKEUT SIXTH SIXTY-FOURTH SKLIRON SKULL SLEEPING SLOVO SNOUT SNOW SNOWFLAKE SNOWMAN SOT SOURCE SPACING " ++
  "SPHERICAL SPOON SSANGIEUNG SSANGNIEUN SSI SSO SSU ST STEP STIGMA STOCK STONE STOPITSA STRANNO STRATUM STRIKE STROKES STUCK-OUT SUA SUBLINEAR SULFUR SUPRALINEAR SURFACE SUSPENSION SV SWA SWAA SYMBOLS SYNAGMA TAALUJA TABLE TAE TARGET TAV TEARS TENT TENTH TESSERA TETARTOS THII THIRTY-FIVE THIRTY-SECOND THOO THOUGHT THREAD THU THUNDER THWA THWAA TIGHT TIL TIME TLA TLE TLHA TLI TLO TLU TONE-7 TOP-LIGHTED TOUCH TRA TRAIN TRANSPOSITION TREND TRUCK TRUE TSADI TSATA TT TTHAA TTO TVRIDO TWA TWAA TWENTY-TWO TWO-CIRCLE UH UKRAINIAN UKU UPTURN UUE VAREIA VEDE VERSE VEW VY WAE WAU WAVES WAVING WEO WHEAT WHEELCHAIR WHOLE WON WOOD WORK WRINKLES WUE XEH XW YAGH YAJ YAK YATI YAZH YEO YEORINHIEUH YESIEUNG YESTU YIT YIWN YUQ YWA YWAA YY ZEMLJA ZHI ZHIVETE ZHO ZHU ZQAPHA ZU5 -DZUD -UM A001 A002 A003 A004 A005 A006 A007 A008 A009 A010 A011 A012 A013 A014 A015 A016 A017 A018 A019 A020 A021 A022 A023 A024 A025 A026 A027 A028 A029 A030 A031 A032 A033 A034 A035 A036 A037 A038 A039 A040 A041 A042 A043 A044 A045 A045A A046 A047 A048 A049 A050 A051 A052 A053 A054 A055 A056 A057 A058 A059 A060 A061 A062 A063 A064 A065 A066 A067 A068 A069 A070 A301 A302 A303 A304 A305 A306 A307 A308 A309A A310 A311 A312 A314 A315 A316 A317 A318 A319 A320 A321 A322 A323 A324 A325 A326 A327 A328 A329 A330 A331 A333 A334 A335 A336 A337 A338 A339 A340 A341 A342 A343 A344 A345 A346 A347 A348 A349 A350 A351 A352 A353 A354 A355 A356 A357 A358 A359 A360 A361 A362 A363 A364 A365 A366 A367 A368 A369 A370 A371 A501 A502 A503 A504 A505 A506 A508 A509 A510 A511 A512 A513 A515 A516 A520 A521 A523 A524 A525 A526 A527 A528 A529 A530 AAI AAN AAY ACADEMY ACCOUNT ACKNOWLEDGE ACTIVATE ACTUALLY ADULT AEB AEDA-PILLA AEE AEG AEK AESC AET AEY AKARA AKHMIMIC ALAPH ALEMBIC ALEUT ALFA ALIEN ALLAAH ALLI ALLIANCE ALVEOLAR AMB ANCHOR ANCORA ANGLICANA ANTARGOMUKHA ANTENNA ANTIMONIATE ANTIRESTRICTION AP APESO APLOUN APODERMA APOSTROFOI APPLE ARAD ARAEA ARCH ARDHAVISARGA ARGI ARGOSYNTHETON ARPEGGIATO ARTS ASCENDING ASHES ASPIRATION " ++
  "ASYMPTOTICALLY ATHAPASCAN ATIU AUE AUTOMOBILE AWX AX AYAH AYN AZ B001 B002 B003 B004 B005 B006 B007 B008 B009 BADGER BALUDA BASELINE BASHKIR BATHTUB BATTERY BBI BBO BBU BBUT BCAD BEAM BEAR BEAT BEER BEETLE BENZENE BERBER BEVERAGE BHETH BHO BICYCLIST BINARY BINDI BINDING BINOCULAR BIT BITING BLADE BLANK BLENDED BLINK BLOCK-2 BLOCK-3 BLOCK-4 BLOCK-5 BLOCK-6 BLOCK-7 BLOOD BLOSSOM BLOWING BOAR BOAT BODY BOHAIRIC BOO BOOKMARK BOOMERANG BOOT BOTH BOUQUET BRA BRDA BREAD BREVIS BRIGHTNESS BROAD BUILDINGS BULLHORN BWA BWEE BWI BYELORUSSIAN-UKRAINIAN BZUNG CADUCEUS CAKRA CALYA CAMEL CANCEL CANNON CARPENTRY CART CAUDATE CAULDRON CAYANNA CAYN CC CD CECAK CEE CENT CENTRELINE CER-WA CH CHAA CHAIR CHAT CHEH CHELYUSTKA CHEVRON CHOREVMA CHRONOU CHURCH CIP CIRCLING CITY CITYSCAPE CLINKING CLUSTER COAT CON CONGRATULATION CONJOINING CONSECUTIVE CONVERGING COOKIE COPRODUCT COPYRIGHT CREAM CRICKET CROSSBAR CROSSBONES CROSSHATCH CROWN CULTIVATION CUOP CURLICUE CWE CWII CWO CWOO CY CYA CYP CYT DAA DAALI DALATH DALDA DAMP DAP-BEI DAP-BUON DAP-MUOY DAP-PII DAP-PRAM DAR DARA3 DARK DARKENING DAT DATE DB DCHE DDAA DDDHA DDE DDHAA DDHO DDI DDU DDUR DEATH DECORATION DECREASE DEI DELETE DEMESTVENNY DENOMINATOR DEPARTURE DESERT DESKTOP DEXIA DEYTEROS DH DHO DIB DIFONIAS DIGRAMMOS DIMINUTION-1 DIRECTIONAL DIRECTLY DISAPPOINTED DISIMOU DIVINATION DIZZY DJA DOI DOLLS DONG DOO DOOR DOUBLE-LINED DOVE DRACHMAS DRAM DRESS DRINK DRIVE DROP-SHADOWED DROPLET DUNG DV DVOECHELNOPOVODNAYA DZEE DZHE DZI DZJE DZO DZU DZWE DZZE DZZHE EAGLE EARS EARTHLY ECS ED EG EGG EGY EHCHA EHKA EHPA EHTA EHTSA EIGHTIETHS EIN EJ ELIFI ELY EMBEDDING EMP EMPHASIS ENCLOSURES ENGINE ENT-SHAPED ENTER ENTERPRISE EPENTHETIC ERASE EREN ERIS ESASA ESCAPE ESHE3 ESZ ETERON ETY EURO EUROPEAN EWE EYN EZS FAMILY FAN FATHER FEI FEMININE FIELD FILM FINANCIAL FLAME FLATBREAD FLEXUS FLIP FLUTE FLUTTERING FOLLOWING FONT FOOTBALL FOOTNOTE FORKED FORTIETH FOUNTAIN FOX FRENCH FRETBOARD FUE FUNCTION FUR FUSA FWA FWAA FWEE FWI GAETTA-PILLA GAH GAMAL " ++
  "GAME GAPPED GARSHUNI GATE GAY GBEE GBI GBO GBOO GCIG GENERAL GENIKI GEOMETRICALLY GEP GERSHAYIM GESTURE GGI GGO GGOP GGU GGUO GHAA GHAD GHEUAE GHO GIBBOUS GLISSANDO GNYIS GORGI GORTHMIKON GOT GRAM GREATER GREGORIAN GROUND GROUP GRU GUARD GUG GUL GUR7 GV GWA GWE GWEE GWI GYAS GYON HAN HANDLE HASANTA HATE HAVE HBASA HEADSTONE HEART-SHAPED HEI HEN HET HETA HG HHAA HHWA HIGH-REVERSED-9 HIGH-SPEED HII HIN HINGE HIRIQ HIT HIYO HLA HMO HOCKEY HOLE HOLLOW HOLO HOMOTHETIC HORNS HORR HOTEL HTA HUGGING HUN HWAIR HXIT HXOP HXUO HYA HYPHENATION HZ IAN IAUDA ICHIMATOS IDENTIFICATION IDEOGRAPH-4E09 IDEOGRAPH-4E8C IDEOGRAPH-6253 IEUNG-KIYEOK IG IJ IJE IKARA IL ILIMMU INHERENT INHIBIT INNER INTERIOR INTERLACED INTERPOLATION INTERSECTING IS-PILLA ISSHAR IX IYEK JAA JADE JAR JAW JHEH JIIM JJI JJIE JJO JJU JJUT JJY JNYA JOO JWA KAAF KAB KABA KAD2 KAH KAP KAPYEOUNRIEUL KAPYEOUNSSANGPIEUP KASHMIRI KAYANNA KAZAKH KEEPING KEMPLI KEMPUL KESH2 KEUM KEUX KEYCAP KG KHAA KHAI KHAKASSIAN KHANG KHAPH KHHA KHHO KHMU KINNA KIP KIT KJE KLYUCH KLYUCHENEPOSTOYANNAYA KNIGHT-BISHOP KNIGHT-QUEEN KNIGHT-ROOK KOK KON KONTEVMA KORANIC KOTO KP KPE KPEE KPI KPOO KPU KRYUK KU4 KUN KVA KWEE KWII KWO KWOO L-SHAPED LABIAL LABOR LAE LAK-050 LAK-079 LAK-081 LAKE LAMP LAN LANE LANES LANTANG LARGER LATERAL LATINATE LAULA LAW LAYANNA LCE LEANING LEEEE LEGETOS LELET LENIS LESH LESSER LEU LEVEL LHAA LHI LHO LID LIE LING LINK LIQUID LIRA LITTER LIWN LJ LOCOMOTIVE LOGOTYPE LOM LOOT LOW-9 LOWERED LS LUGGAGE LV LWAA LWE LWI LWII LWO LWOO LYR LZ M001 M002 M003 M004 M005 M006 M007 M008 M009 M010 M011 M012 M013 M014 M015 M016 M017 M018 M019 M020 M021 M022 M023 M024 M025 M026 M027 M028 M029 M030 M031 M032 M033 M034 M035 M036 M037 M038 M039 M040 M041 M042 M043 M044 MADDAH MAE MAESI MAGNIFYING MAH MALAKON MANDARIN MAQ MAR MARK-3 MASH2 MAY MBANYI MBEN MBEUM MC MCHAN MDUN MECHANICAL MEEJ MEET MELON MEM-QOPH MERGE MERKHA MESH MESO METAL MEUN MGBA MHA MICROPHONE MIDLINE MIEE MIEUM-KIYEOK MIEUM-PANSIOS MIG MIIM MILLE MIRROR MLA " ++
  "MODIFIER-2 MODIFIER-3 MODIFIER-4 MODIFIER-5 MODIFIER-6 MONEY MONOFONIAS MONOGRAMMOS MOP MORTAR MOTHER MOTOR MOVE MPA MUAE MUAN MUCAAD MVOP MW MWEE MWII MWO MWOO MY NA-2 NA2 NAASIKYAYA NAE NAKAARA NAM NAM2 NANA NAQ NATIONAL NAYANNA NBIE NDAM NDOO NE-2 NECK NEGATED NENOE NEPTUNE NEQUDAA NEST NEWSPAPER NGAS NGE NGEN NGGAAM NGGEE NGGEUAET NGGI NGGUOQ NGHA NGKA NGKUE NGKWAEN NGON NGOP NGOU NIB NIEUN-KIYEOK NIEUN-PANSIOS NII NJ NJA NJAEMLI NJAM NJEUX NJO NJOO NJUAE NJUEQ NKAARAE NODE NORTHERN NOTCH NOTEBOOK NOZHKA NSHIEE NSIEE NTAA NTOG NTUU NU11 NUAE NUENG NULL NUT NUTILLU NWE NWI NWII NWO NWOO NY NYAA NYEE NYHA NYIP NYIT NYOP NZUP OAY OCTAGON OEE OEK OIN OKARA OKTO OLIGON OLIVE OMET OMISSION ONE-HUNDRED-AND-SIXTIETH ONG ONN OOE OPEN-CIRCUIT-OUTPUT OPEN-O OPTICAL ORDINAL ORNATE OS OTU OUNCE OV OVERLONG OVERRIDE OVERSTRUCK OYRANISMA PAA-PILLA PAAM PAGES PAKPAK PALOCHKA PAMADA PAMPHYLIAN PAMUDPOD PANGOLAT PANTI PARA PARALLELOGRAM PARAPHRASE PARTNERSHIP PASANGAN PATTY PAYANNA PAYEROK PEDESTRIAN PELASTON PENNANT PENTASEME PEOPLE PEPPER PERCUSSIVE PEREVODKA PERNIN PERSONAL PESH2 PESO PETALLED PHAA PHIEUPH-PIEUP PHILIPPINE PHRASE PHUR PIASMA PICK PIE PIEUP-CHIEUCH PIEUP-HIEUH PIEUP-KIYEOK PIEUP-PHIEUPH PIEUP-SIOS-KIYEOK PIEUP-THIEUTH PILCROW PIN PIP PIPAEMBA PIPAEMGBIEE PISELEH PIT PITCHFORK PLAGIOS PLANCK PLANE PLOPHU PLUTA PNEUMATA POLI POLLU PORRECTUS POSSESSION POTATO PRECEDE PRECEDING PREPONDERANCE PRINT PRINTER PROLONGED PROPELLER PROPORTION PROTOS PSIFISTON PUE PUP PWEE PWII PWOO PYT QAI QATAN QII QITSA QOT QUA QUE QUI QUINDICESIMA QUOTE QUV QWE QWEE QWI R-CREE RA-2 RABBIT RACQUET RADIO RAISING RAMS RANA RAY RBASA RDO REACH READING RECORD RECTANGULAR RECTILINEAR REDUPLICATION RELAXED RELIEVED REPLACEMENT RERENGGAN RESOURCE RESPONSE RESTRICTED REVOLVING RGYA RGYAN RGYINGS RIEE RIEUL-KAPYEOUNPIEUP RIEUL-KHIEUKH RIEUL-KIYEOK-SIOS RIEUL-NIEUN RIEUL-PANSIOS RIEUL-PIEUP-SIOS RIEUL-SSANGKIYEOK RIEUL-YEORINHIEUH RIKRIK RINGS RIPPLE RJE RNAM RNYING ROLLER ROLLING ROMANIAN ROO " ++
  "ROTATIONS RRE RRO RULER RUMAI RWA RWAA RY S-SHAPED SA-2 SADE SAFHA SAH SALLA SALLALLAHOU SALTILLO SAMBA SANDAL SANSKRIT SAP SARI SATELLITE SAY SCANDICUS SCOOTER SCOTS SEGNO SEH SEISMA SELF SEMISOFT SEMIVOWEL SEMKATH SERIF SESAME SEXTULA SGAB SHA6 SHAA SHANG SHAPES SHAPING SHAT SHELF SHET SHEUX SHIFT SHIQ SHOG SHOP SHOPPING SHOY SHRI SHRIMP SHTAPIC SHUR SHWAA SHWI SHWII SHWO SHWOO SHY SIG SIGMOID SIGNS SIK2 SILA3 SIMULTANEOUS SINDHI SINNYIIYHE SIOS-CHIEUCH SIOS-HIEUH SIOS-MIEUM SIOS-NIEUN SIOS-RIEUL SIOS-THIEUTH SIXTHS SIZE SJE SKATE SKI SLICE SLOPING SLOW SLUR SMALLER SMASH SMOKING SOAP SOCIETY SOF SOLDIER SOLID SOM SOROCHYA SOU SOUTHERN SPADE SPARKLE SPEAR SPECIAL SPIDER SPIDERY SPIRITUS SPLAYED SQUAT SQUIRREL SREDNE SSANGHIEUH SSANGRIEUL SSE SSUU STAMPED STANDARD STAVROS STEAM STICKING STORE STRONG STUDY SUBJOINER SUBSTITUTE SUCCEED SUCKED SUE SUHUR SUNGLASSES SUNRISE SUPER SUPERVISE SURANG SW SWAPPING SWE SWEET SWI SWII SWO SWOO SYMBOL-1 SYMBOL-11 SYMBOL-12 SYMBOL-13 SYMBOL-14 SYMBOL-17 SYMBOL-18 SYMBOL-19 SYMBOL-2 SYMBOL-23 SYMBOL-24 SYMBOL-4 SYMBOL-5 SYMBOL-50 SYMBOL-51 SYMBOL-52 SYMBOL-53 SYMBOL-54 SYMBOL-7 SYMBOL-8 SYMMETRIC TA-2 TA-ROL TABULATION TAMING TANGENT TANNED TAPE TAT TAXI TAYANNA TC TCHE TE-2 TELEIA TELISHA TELOUS TENNIS TERMINAL TETARTIMORION TETRASEME TETRASIMOU TEUAEN TEUAEQ THEMA THEMATISMOS THERE THERMOMETER THETHE THONG THREE-QUARTER TIGHTLY-CLOSED TIKEUT-CIEUC TIKEUT-KIYEOK TIKEUT-PIEUP TIKEUT-RIEUL TIKEUT-SIOS TIKHY TIRONIAN TIT TITA TIWN TJE TLHE TLHI TLHO TLV TOQ TORCULUS TORSO-WALLPLANE TOT TOTAL TOUCHING TOUCHTONE TRACK TRADITIONAL TRAM TRANSMISSION TRAY TREMOLO-1 TREMOLO-2 TREMOLO-3 TRESILLO TRIANGLE-ROUND TRICOLON TRIGRAMMOS TRISEME TRISIMOU TRITIMORION TROKUTASTI TROPICAL TRUNK TSEE TSHE TSHES TSHOOK TSSE TSV TSWE TTAA TTAYANNA TTHE TTHI TTI TTTA TTUDDAAG TUK TUOT TUP TURBAN TWENTIETH TWENTIETHS TWENTY-EIGHTH TWENTY-FOUR TWENTY-ONE TWENTY-THREE TWI TWII TWO-WAY TWOO TXWV TYPE-3 TYPE-4 TYPE-5 TYPE-6 TZ UB UBADAMA UEX UEZ UKARA " ++
  "UNDERLINE UNDERTIE UNIVERSAL UNK UNN UO UPWARD URANUS USED UY UZ3 VAA VAMAGOMUKHA VEND VEP VICTORY VIDA VIDEO VIETNAMESE VINEGAR VISIGOTHIC VIYO VOICING VOO VOU VUR WAITING WANING WAP WASALLAM WATCH WAW-AYIN-RESH WAX WAXING WC WEARY WEDGE-TAILED WEI WHALE WII WINDOW WINDU WINKING WOLOSO WOOL WRENCH WRITING WULU WUO WV XO XVA XYA XYE YA-YO YAKH YAM YAN YAP YAQ YAR YAWN YAY YAZ YEAR YESIEUNG-PANSIOS YESIEUNG-SIOS YFEN YHE YIE YO-I YO-YA YO-YAE YOGH YPOKRISIS YR YU-I YU-YE YU-YEO YUDH YUJ YUM YUOP YUWOQ YV YWE YWI YWII YWO YWOO ZA7 ZAA ZADERZHKA ZAKRYTAYA ZAQEF ZAYN ZEMLYA ZHWE ZIB ZIDA ZIZ2 ZJE ZLA ZLAMA ZOO ZOT ZUP ZUR ZY ZZE ZZI ZZIET ZZO ZZU -CHAL -CHAR -KHYUD -PHRU A-1 A-2 A-3 A-EU A-O A-U A-WO A005A A006A A006B A010A A014A A017A A026A A028B A032A A039A A040A A041A A042A A043A A046A A046B A066A A066B A066C A071 A072 A073 A074 A075 A076 A077 A078 A079 A080 A081 A082 A083 A084 A085 A086 A087 A088 A089 A090 A091 A092 A093 A094 A095 A096 A097 A097A A098 A098A A099 A100 A100-102 A100A A101 A101A A102 A102A A103 A104 A104A A104B A104C A105 A105A A105B A106 A107 A107A A107B A107C A108 A109 A110 A110A A110B A111 A112 A113 A114 A115 A115A A116 A117 A118 A119 A120 A120B A121 A122 A123 A124 A125 A125A A126 A127 A128 A129 A130 A131 A131C A132 A133 A134 A135 A135A A136 A137 A138 A139 A140 A141 A142 A143 A144 A145 A146 A147 A148 A149 A150 A151 A152 A153 A154 A155 A156 A157 A158 A159 A160 A161 A162 A163 A164 A165 A166 A167 A168 A169 A170 A171 A172 A173 A174 A175 A176 A177 A178 A179 A180 A181 A182 A183 A184 A185 A186 A187 A188 A189 A190 A191 A192 A193 A194 A195 A196 A197 A198 A199 A200 A201 A202 A202A A202B A203 A204 A205 A206 A207 A207A A208 A209 A209A A210 A211 A212 A213 A214 A215 A215A A216 A216A A217 A218 A219 A220 A221 A222 A223 A224 A225 A226 A227 A227A A228 A229 A230 A231 A232 A233 A234 A235 A236 A237 A238 A239 A240 A241 A242 A243 A244 A245 A246 A247 A248 A249 A250 A251 A252 A253 A254 A255 A256 A257 A258 A259 A260 A261 A262 A263 A264 A265 A266 A267 A267A A268 A269 A270 " ++
  "A271 A272 A273 A274 A275 A276 A277 A278 A279 A280 A281 A282 A283 A284 A285 A286 A287 A288 A289 A289A A290 A291 A292 A293 A294 A294A A295 A296 A297 A298 A299 A299A A3 A300 A309 A309B A309C A313 A313A A313B A313C A329A A332 A332A A332B A332C A336A A336B A336C A359A A364A A368A A371A A372 A373 A374 A375 A376 A377 A378 A379 A380 A381 A381A A382 A383 A383A A384 A385 A386 A386A A387 A388 A389 A390 A391 A392 A393 A394 A395 A396 A397 A398 A399 A400 A400-VAS A401 A401-VAS A402 A402-VAS A403 A403-VAS A404 A404-VAS A405 A405-VAS A406 A406-VAS A407 A407-VAS A408 A408-VAS A409 A409-VAS A410 A410-VAS A410A A411 A411-VAS A412 A412-VAS A413 A413-VAS A414 A414-VAS A415 A415-VAS A416 A416-VAS A417 A417-VAS A418 A418-VAS A419 A420 A421 A422 A423 A424 A425 A426 A427 A428 A429 A430 A431 A432 A433 A434 A435 A436 A437 A438 A439 A440 A441 A442 A443 A444 A445 A446 A447 A448 A449 A450 A450A A451 A452 A453 A454 A455 A456 A457 A457A A458 A459 A460 A461 A462 A463 A464 A465 A466 A467 A468 A469 A470 A471 A472 A473 A474 A475 A476 A477 A478 A479 A480 A481 A482 A483 A484 A485 A486 A487 A488 A489 A490 A491 A492 A493 A494 A495 A496 A497 A507 A514 A517 A518 A519 A522 A531 A532 A534 A535 A536 A537 A538 A539 A540 A541 A542 A545 A547 A548 A549 A550 A551 A552 A553 A554 A555 A556 A557 A559 A563 A564 A565 A566 A568 A569 A570 A571 A572 A573 A574 A575 A576 A577 A578 A579 A580 A581 A582 A583 A584 A585 A586 A587 A588 A589 A591 A592 A594 A595 A596 A598 A600 A601 A602 A603 A604 A606 A608 A609 A610 A611 A612 A613 A614 A615 A616 A617 A618 A619 A620 A621 A622 A623 A624 A626 A627 A628 A629 A634 A637 A638 A640 A642 A643 A644 A645 A646 A648 A649 A651 A652 A653 A654 A655 A656 A657 A658 A659 A660 A661 A662 A663 A664 A701 A702 A703 A704 A705 A706 A707 A708 A709 A709-2 A709-3 A709-4 A709-6 A710 A711 A712 A713 A714 A715 A717 A726 A732 A800 A801 A802 A803 A804 A805 A806 A807 AA001 AA002 AA003 AA004 AA005 AA006 AA007 AA007A AA007B AA008 AA009 AA010 AA011 AA012 AA013 AA014 AA015 AA016 AA017 AA018 AA019 AA020 AA021 AA022 AA023 " ++
  "AA024 AA025 AA026 AA027 AA028 AA029 AA030 AA031 AA032 AABAAFILI AAJ AAK AAM AANG AAO AARU AAU AAW AAYANNA AAYIN AAZHAAKKU AB001 AB002 AB003 AB004 AB005 AB006 AB007 AB008 AB009 AB010 AB011 AB013 AB016 AB017 AB020 AB021 AB021F AB021M AB022 AB022F AB022M AB023 AB023M AB024 AB026 AB027 AB028 AB029 AB030 AB031 AB034 AB037 AB038 AB039 AB040 AB041 AB044 AB045 AB046 AB047 AB048 AB049 AB050 AB051 AB053 AB054 AB055 AB056 AB057 AB058 AB059 AB060 AB061 AB065 AB066 AB067 AB069 AB070 AB073 AB074 AB076 AB077 AB078 AB079 AB080 AB081 AB082 AB085 AB086 AB087 AB118 AB120 AB122 AB123 AB131A AB131B AB164 AB171 AB180 AB188 AB191 ABACUS ABAFILI ABB ABUNDANCE ABYSMAL ACCENT-STACCATO ACCEPT ACCOMMODATION ACCORDION ACCUMULATION ACUTE-GRAVE-ACUTE ACUTE-MACRON ADAK ADDAK ADDRESS ADDRESSED ADHESIVE ADI ADMETOS ADMISSION ADO ADVANCE ADVANTAGE AED AEEYANNA AEL AENG AER AERIAL AES AESCULAPIUS AEYANNA AFFRICATION AFGHANI AFOREMENTIONED AFSAAQ AFTER AGAIN AGAINST AGE AGGRAVATED AGGRAVATION AGUNG AHAD AHAGGAR AHANG AHH AHSA AHSDA AID AIHVUS AIKARA AILM AINN AINU AIVA AIVILIK AIYANNA AKBAR AKSA AKTIESELSKAB AL-JUZ AL-LAKUNA ALAF ALAN ALARM ALAYHAA ALAYHIM ALAYHIMAA ALAYNAA ALF ALGIZ ALIFU ALIGNED ALKALI ALKALI-2 ALLAH ALLAHOU ALPA ALPAPRANA ALT ALTERNATION ALUM AMALGAM AMALGAMATION AMBA AMBULANCE AMERICAN AMERICAS AMOUNT AMPHORA AMPS AMULET AN-NISF ANAP ANATOMICAL ANATRICHISMA ANDAP ANGED ANGEL ANGKA ANGKHANKHU ANGRY ANGSTROM ANGUISHED ANGULAR ANH ANHAA ANHU ANHUM ANHUMAA ANHUNNA ANIMAL ANKH ANN ANNAAU ANNUITY ANPEA ANSUZ ANT ANTICLOCKWISE-ROTATED ANTIFONIA ANTIKENOKYLISMA ANTIKENOMA ANTIMONY-2 ANUSVARAYA AOR AOU APAATO APART APIN APODEXIA APOLLON APOTHEMA APOTHES APPLICATION APPROACH APPROACHES APRIL APUN AQUAFORTIS AQUARIUS AR-RAHEEM AR-RAHMAN AR-RUB ARAEA-A ARAEA-E ARAEA-EO ARAEA-I ARAEA-U ARAEAE ARDHACANDRA ARE AREPA ARGON ARGOTERI ARIES ARKAANU ARKAB ARLAUG ARMOUR ARMS ARMY AROUND-PROFILE AROURA AROUSING ARRAY ARRIVE ARRIVING ARROWHEAD-SHAPED ARSENIC ARTA ARTABE ARTICULATED ARTIST ARUHUA AS-SAJDA " ++
  "AS-SALAATU ASAL2 ASAT ASCENT ASCIA ASH3 ASH9 ASIA-AUSTRALIA ASPER ASPIRATED ASSALLAM ASSERTION ASTERISCUS ASTERISKS ASTERISM ASTONISHED ASTRAEA ASTRONOMICAL ASYURA ASZ ATH-THALATHA ATHARVAVEDIC ATHLETIC ATIKRAMA ATIYA ATMAAU ATNAH ATOM ATT ATTACHING ATTENTION ATTHACAN AUBERGINE AUGMENTATION AUGUST AUNN AURAMAZDAA AURAMAZDAA-2 AURAMAZDAAHA AURIPIGMENT AUSTRAL AUTO AUTOMATED AUTUMN AUYANNA AVAKRAHASANYA AVERAGE AVOCADO AWC AWE AWQ AWZ AYANNA AYER AYIN-DALETH AZZA B005A B010 B011 B012 B013 B014 B015 B016 B017 B018 B019 B020 B021 B022 B023 B024 B025 B026 B027 B028 B029 B030 B031 B032 B033 B034 B036 B037 B038 B039 B040 B041 B042 B043 B044 B045 B046 B047 B048 B049 B050 B051 B052 B053 B054 B055 B056 B057 B058 B059 B060 B061 B062 B063 B064 B065 B066 B067 B068 B069 B070 B071 B072 B073 B074 B075 B076 B077 B078 B079 B080 B081 B082 B083 B085 B086 B087 B089 B090 B091 B100 B102 B104 B105 B105F B105M B106F B106M B107F B107M B108F B108M B109F B109M B120 B121 B122 B123 B125 B127 B128 B130 B131 B132 B133 B135 B140 B141 B142 B145 B146 B150 B151 B152 B153 B154 B155 B156 B157 B158 B159 B160 B161 B162 B163 B164 B165 B166 B167 B168 B169 B170 B171 B172 B173 B174 B176 B177 B178 B179 B180 B181 B182 B183 B184 B185 B189 B190 B191 B200 B201 B202 B203 B204 B205 B206 B207 B208 B209 B210 B211 B212 B213 B214 B215 B216 B217 B218 B219 B220 B221 B222 B225 B226 B227 B228 B229 B230 B231 B232 B233 B234 B236 B240 B241 B242 B243 B245 B246 B247 B248 B249 B250 B251 B252 B253 B254 B255 B256 B257 B258 B259 B305 BA-2 BAARERU BACKSPACE BACON BACTRIAN BADGE BADMINTON BAG3 BAGA BAGEL BAGGAGE BAGS BAGUETTE BAH BAHIRGOMUKHA BAHT BAIMAI BAIRKAN BALD BALLET BALLPOINT BANANA BAND BANDAGE BANG BANJO BANTOC BAP BARA2 BARBER BARIYOOSAN BARLEY BARREKH BARRIER BASEBALL BASH BASKET BASKETBALL BATHAMASAT BAU BAX BB BBAA BBAP BBAT BBAX BBEE BBEP BBEX BBIE BBIEP BBIET BBIEX BBIP BBIT BBIX BBOP BBOT BBOX BBUO BBUOP BBUOX BBUP BBUR BBURX BBUX BBY BBYP BBYT BBYX BEACH BEADS BEAN BEANS BEARDED BEATING BECAUSE BED BEEHIVE BEETA " ++
  "BEFORE BEGINNER BEGINNING BEITH BELGTHOR BELLHOP BENDE BENTO BEORC BEP BERKANAN BEX BEYYAL BH BHAA BHAM BHATTIPROLU BHEE BHI BHOO BHU BIB BIBLE-CREE BICEPS BICYCLE BICYCLES BIDENTAL BIE BIEP BIET BIEX BIKINI BILLED BILLIARDS BILLIONS BINOVILE BIOHAZARD BIP BIRTHDAY BIRU BISAH BISECTING BISMILLAH BISMUTH BISON BITCOIN BITE BITTER BIX BJARKAN BKA- BLA BLOCK-1358 BLOND BLOW BLOWFISH BLUEBERRIES BOA BOMB BOOKS BOOTS BOP BORAX BORAX-2 BORAX-3 BORUTO BORZAYA BORZY BOT BOTTOM-LIGHTED BOTTOM-SHADED BOUNDARY BOWING BOWLING BOXING BOY BOYS BQ BRACE BRACKETS BRAIN BRAKCET BRANCHES BRANCHING BREAKTHROUGH BREAST-FEEDING BREVE-MACRON BRI BRIDE BRIEFCASE BRIEFS BRISTLE BROCCOLI BRONZE BROOM BSDUS BSKA- BSKUR BSTAR BUCKET BUCKLE BUFFALO BUG BULB BULL BULLS BULLSEYE BUMPY BUNG BUNNY BUO BUOP BUOX BUOY BUP BUR2 BURRITO BURX BUSINESS BUSSYERU BUST BUSTS BUTTER BUTTERFLY BUUMISH BUX BWE BXG BYP BYR BYRX BYT BYX C-18 C-39 C001 C002 C002A C002B C002C C003 C004 C005 C006 C007 C008 C009 C010 C010A C011 C012 C013 C014 C015 C016 C017 C018 C019 C020 C021 C022 C023 C024 CAAI CAANG CABBAGE-TREE CABINET CABLEWAY CACTUS CADA CAESURA CAH CAI CAL CALC CALCULATOR CALX CAMNUC CAMPING CANCER CANDLE CANDY CANE CANG CANNED CANOE CAPITULUM CAPO CAPPED CAPRICORN CAPTIVE CAPUT CARDS CARE CAROUSEL CARP CARRIAGE CARROT CARS CARTRIDGE CARTWHEEL CARYSTIAN CATAWA CAU CAUDA CAUTION CAVE CAX CCA CCAA CCE CCEE CCHA CCHAA CCHEE CCHHA CCHHAA CCHHE CCHHEE CCHHI CCHHO CCHHU CCHI CCHO CCHU CCI CCO CCU CEALC CECEK CEDI CEEB CEEV CEIRT CELEBRATION CELSIUS CELTIC CEN CENTURIAL CEONGCHIEUMCHIEUCH CEONGCHIEUMCIEUC CEONGCHIEUMSIOS CEONGCHIEUMSSANGCIEUC CEONGCHIEUMSSANGSIOS CEP CEREK CEREMONY CERES CEVITU CEX CHAD CHADA CHAINS CHAMILI CHAMILON CHAMKO CHAN CHANG CHANGE CHAP CHAPTER CHATTAWA CHAU CHAVIYANI CHAX CHEEK CHEEM CHEERING CHEESE CHEIKHAN CHEIKHEI CHEINAP CHELNU CHEN CHEP CHEQUERED CHERRIES CHERRY CHERY CHESTNUT CHET CHEX CHHA CHHIM CHICKEN CHIEUCH-HIEUH CHIEUCH-KHIEUKH CHIL CHILDREN CHIM CHIME CHING CHINOOK CHIPMUNK " ++
  "CHIRET CHIRON CHITUEUMCHIEUCH CHITUEUMCIEUC CHITUEUMSIOS CHITUEUMSSANGCIEUC CHITUEUMSSANGSIOS CHOA CHOCOLATE CHOE CHOKE CHOP CHOPSTICKS CHOT CHOX CHOY CHRYSANTHEMUM CHULA CHUO CHUOP CHUOT CHUOX CHUP CHUR CHURX CHUX CHWA CHWV CHY CHYP CHYR CHYRX CHYT CHYX CIE CIEP CIET CIEUC-IEUNG CIEUC-PIEUP CIEUC-SSANGPIEUP CIEX CII CINEMA CINNABAR CIRCULATION CIRCUS CIT CITATION CIVILIAN CIX CL CLAIM CLAMSHELL CLAPPER CLAPPING CLASSICAL CLAW CLEAR CLEAVER CLEF-1 CLEF-2 CLIMACUS CLIMBING CLINGING CLIPBOARD CLIVIS CLOSENESS CLOSET CLOSURE CLOVER CLOWN CLUB-SPOKED CM001 CM002 CM004 CM005 CM006 CM007 CM008 CM009 CM010 CM011 CM012 CM012B CM013 CM015 CM017 CM019 CM021 CM023 CM024 CM025 CM026 CM027 CM028 CM029 CM030 CM033 CM034 CM035 CM036 CM037 CM038 CM039 CM040 CM041 CM044 CM046 CM047 CM049 CM050 CM051 CM052 CM053 CM054 CM055 CM056 CM058 CM059 CM060 CM061 CM062 CM063 CM064 CM066 CM067 CM068 CM069 CM070 CM071 CM072 CM073 CM074 CM075 CM075B CM076 CM078 CM079 CM080 CM081 CM082 CM083 CM084 CM085 CM086 CM087 CM088 CM089 CM090 CM091 CM092 CM094 CM095 CM096 CM097 CM098 CM099 CM100 CM101 CM102 CM103 CM104 CM105 CM107 CM108 CM109 CM110 CM112 CM114 CM301 CM302 COA COASTER COCKROACH COCKTAIL COCONUT CODA COENG COFFIN COIN COLL COLLISION COLOR COLUMN COMB COMBINATION COMBINED COMET COMING COMMON COMPARE COMPASS COMPLEMENT COMPLETED COMPLIANCE COMPONENT-001 COMPONENT-002 COMPONENT-003 COMPONENT-004 COMPONENT-005 COMPONENT-006 COMPONENT-007 COMPONENT-008 COMPONENT-009 COMPONENT-010 COMPONENT-011 COMPONENT-012 COMPONENT-013 COMPONENT-014 COMPONENT-015 COMPONENT-016 COMPONENT-017 COMPONENT-018 COMPONENT-019 COMPONENT-020 COMPONENT-021 COMPONENT-022 COMPONENT-023 COMPONENT-024 COMPONENT-025 COMPONENT-026 COMPONENT-027 COMPONENT-028 COMPONENT-029 COMPONENT-030 COMPONENT-031 COMPONENT-032 COMPONENT-033 COMPONENT-034 COMPONENT-035 COMPONENT-036 COMPONENT-037 COMPONENT-038 COMPONENT-039 COMPONENT-040 COMPONENT-041 COMPONENT-042 COMPONENT-043 COMPONENT-044 COMPONENT-045 COMPONENT-046 COMPONENT-047 " ++
  "COMPONENT-048 COMPONENT-049 COMPONENT-050 COMPONENT-051 COMPONENT-052 COMPONENT-053 COMPONENT-054 COMPONENT-055 COMPONENT-056 COMPONENT-057 COMPONENT-058 COMPONENT-059 COMPONENT-060 COMPONENT-061 COMPONENT-062 COMPONENT-063 COMPONENT-064 COMPONENT-065 COMPONENT-066 COMPONENT-067 COMPONENT-068 COMPONENT-069 COMPONENT-070 COMPONENT-071 COMPONENT-072 COMPONENT-073 COMPONENT-074 COMPONENT-075 COMPONENT-076 COMPONENT-077 COMPONENT-078 COMPONENT-079 COMPONENT-080 COMPONENT-081 COMPONENT-082 COMPONENT-083 COMPONENT-084 COMPONENT-085 COMPONENT-086 COMPONENT-087 COMPONENT-088 COMPONENT-089 COMPONENT-090 COMPONENT-091 COMPONENT-092 COMPONENT-093 COMPONENT-094 COMPONENT-095 COMPONENT-096 COMPONENT-097 COMPONENT-098 COMPONENT-099 COMPONENT-100 COMPONENT-101 COMPONENT-102 COMPONENT-103 COMPONENT-104 COMPONENT-105 COMPONENT-106 COMPONENT-107 COMPONENT-108 COMPONENT-109 COMPONENT-110 COMPONENT-111 COMPONENT-112 COMPONENT-113 COMPONENT-114 COMPONENT-115 COMPONENT-116 COMPONENT-117 COMPONENT-118 COMPONENT-119 COMPONENT-120 COMPONENT-121 COMPONENT-122 COMPONENT-123 COMPONENT-124 COMPONENT-125 COMPONENT-126 COMPONENT-127 COMPONENT-128 COMPONENT-129 COMPONENT-130 COMPONENT-131 COMPONENT-132 COMPONENT-133 COMPONENT-134 COMPONENT-135 COMPONENT-136 COMPONENT-137 COMPONENT-138 COMPONENT-139 COMPONENT-140 COMPONENT-141 COMPONENT-142 COMPONENT-143 COMPONENT-144 COMPONENT-145 COMPONENT-146 COMPONENT-147 COMPONENT-148 COMPONENT-149 COMPONENT-150 COMPONENT-151 COMPONENT-152 COMPONENT-153 COMPONENT-154 COMPONENT-155 COMPONENT-156 COMPONENT-157 COMPONENT-158 COMPONENT-159 COMPONENT-160 COMPONENT-161 COMPONENT-162 COMPONENT-163 COMPONENT-164 COMPONENT-165 COMPONENT-166 COMPONENT-167 COMPONENT-168 COMPONENT-169 COMPONENT-170 COMPONENT-171 COMPONENT-172 COMPONENT-173 COMPONENT-174 COMPONENT-175 COMPONENT-176 COMPONENT-177 COMPONENT-178 COMPONENT-179 COMPONENT-180 COMPONENT-181 COMPONENT-182 COMPONENT-183 COMPONENT-184 COMPONENT-185 COMPONENT-186 COMPONENT-187 COMPONENT-188 COMPONENT-189 " ++
  "COMPONENT-190 COMPONENT-191 COMPONENT-192 COMPONENT-193 COMPONENT-194 COMPONENT-195 COMPONENT-196 COMPONENT-197 COMPONENT-198 COMPONENT-199 COMPONENT-200 COMPONENT-201 COMPONENT-202 COMPONENT-203 COMPONENT-204 COMPONENT-205 COMPONENT-206 COMPONENT-207 COMPONENT-208 COMPONENT-209 COMPONENT-210 COMPONENT-211 COMPONENT-212 COMPONENT-213 COMPONENT-214 COMPONENT-215 COMPONENT-216 COMPONENT-217 COMPONENT-218 COMPONENT-219 COMPONENT-220 COMPONENT-221 COMPONENT-222 COMPONENT-223 COMPONENT-224 COMPONENT-225 COMPONENT-226 COMPONENT-227 COMPONENT-228 COMPONENT-229 COMPONENT-230 COMPONENT-231 COMPONENT-232 COMPONENT-233 COMPONENT-234 COMPONENT-235 COMPONENT-236 COMPONENT-237 COMPONENT-238 COMPONENT-239 COMPONENT-240 COMPONENT-241 COMPONENT-242 COMPONENT-243 COMPONENT-244 COMPONENT-245 COMPONENT-246 COMPONENT-247 COMPONENT-248 COMPONENT-249 COMPONENT-250 COMPONENT-251 COMPONENT-252 COMPONENT-253 COMPONENT-254 COMPONENT-255 COMPONENT-256 COMPONENT-257 COMPONENT-258 COMPONENT-259 COMPONENT-260 COMPONENT-261 COMPONENT-262 COMPONENT-263 COMPONENT-264 COMPONENT-265 COMPONENT-266 COMPONENT-267 COMPONENT-268 COMPONENT-269 COMPONENT-270 COMPONENT-271 COMPONENT-272 COMPONENT-273 COMPONENT-274 COMPONENT-275 COMPONENT-276 COMPONENT-277 COMPONENT-278 COMPONENT-279 COMPONENT-280 COMPONENT-281 COMPONENT-282 COMPONENT-283 COMPONENT-284 COMPONENT-285 COMPONENT-286 COMPONENT-287 COMPONENT-288 COMPONENT-289 COMPONENT-290 COMPONENT-291 COMPONENT-292 COMPONENT-293 COMPONENT-294 COMPONENT-295 COMPONENT-296 COMPONENT-297 COMPONENT-298 COMPONENT-299 COMPONENT-300 COMPONENT-301 COMPONENT-302 COMPONENT-303 COMPONENT-304 COMPONENT-305 COMPONENT-306 COMPONENT-307 COMPONENT-308 COMPONENT-309 COMPONENT-310 COMPONENT-311 COMPONENT-312 COMPONENT-313 COMPONENT-314 COMPONENT-315 COMPONENT-316 COMPONENT-317 COMPONENT-318 COMPONENT-319 COMPONENT-320 COMPONENT-321 COMPONENT-322 COMPONENT-323 COMPONENT-324 COMPONENT-325 COMPONENT-326 COMPONENT-327 COMPONENT-328 COMPONENT-329 COMPONENT-330 COMPONENT-331 " ++
  "COMPONENT-332 COMPONENT-333 COMPONENT-334 COMPONENT-335 COMPONENT-336 COMPONENT-337 COMPONENT-338 COMPONENT-339 COMPONENT-340 COMPONENT-341 COMPONENT-342 COMPONENT-343 COMPONENT-344 COMPONENT-345 COMPONENT-346 COMPONENT-347 COMPONENT-348 COMPONENT-349 COMPONENT-350 COMPONENT-351 COMPONENT-352 COMPONENT-353 COMPONENT-354 COMPONENT-355 COMPONENT-356 COMPONENT-357 COMPONENT-358 COMPONENT-359 COMPONENT-360 COMPONENT-361 COMPONENT-362 COMPONENT-363 COMPONENT-364 COMPONENT-365 COMPONENT-366 COMPONENT-367 COMPONENT-368 COMPONENT-369 COMPONENT-370 COMPONENT-371 COMPONENT-372 COMPONENT-373 COMPONENT-374 COMPONENT-375 COMPONENT-376 COMPONENT-377 COMPONENT-378 COMPONENT-379 COMPONENT-380 COMPONENT-381 COMPONENT-382 COMPONENT-383 COMPONENT-384 COMPONENT-385 COMPONENT-386 COMPONENT-387 COMPONENT-388 COMPONENT-389 COMPONENT-390 COMPONENT-391 COMPONENT-392 COMPONENT-393 COMPONENT-394 COMPONENT-395 COMPONENT-396 COMPONENT-397 COMPONENT-398 COMPONENT-399 COMPONENT-400 COMPONENT-401 COMPONENT-402 COMPONENT-403 COMPONENT-404 COMPONENT-405 COMPONENT-406 COMPONENT-407 COMPONENT-408 COMPONENT-409 COMPONENT-410 COMPONENT-411 COMPONENT-412 COMPONENT-413 COMPONENT-414 COMPONENT-415 COMPONENT-416 COMPONENT-417 COMPONENT-418 COMPONENT-419 COMPONENT-420 COMPONENT-421 COMPONENT-422 COMPONENT-423 COMPONENT-424 COMPONENT-425 COMPONENT-426 COMPONENT-427 COMPONENT-428 COMPONENT-429 COMPONENT-430 COMPONENT-431 COMPONENT-432 COMPONENT-433 COMPONENT-434 COMPONENT-435 COMPONENT-436 COMPONENT-437 COMPONENT-438 COMPONENT-439 COMPONENT-440 COMPONENT-441 COMPONENT-442 COMPONENT-443 COMPONENT-444 COMPONENT-445 COMPONENT-446 COMPONENT-447 COMPONENT-448 COMPONENT-449 COMPONENT-450 COMPONENT-451 COMPONENT-452 COMPONENT-453 COMPONENT-454 COMPONENT-455 COMPONENT-456 COMPONENT-457 COMPONENT-458 COMPONENT-459 COMPONENT-460 COMPONENT-461 COMPONENT-462 COMPONENT-463 COMPONENT-464 COMPONENT-465 COMPONENT-466 COMPONENT-467 COMPONENT-468 COMPONENT-469 COMPONENT-470 COMPONENT-471 COMPONENT-472 COMPONENT-473 " ++
  "COMPONENT-474 COMPONENT-475 COMPONENT-476 COMPONENT-477 COMPONENT-478 COMPONENT-479 COMPONENT-480 COMPONENT-481 COMPONENT-482 COMPONENT-483 COMPONENT-484 COMPONENT-485 COMPONENT-486 COMPONENT-487 COMPONENT-488 COMPONENT-489 COMPONENT-490 COMPONENT-491 COMPONENT-492 COMPONENT-493 COMPONENT-494 COMPONENT-495 COMPONENT-496 COMPONENT-497 COMPONENT-498 COMPONENT-499 COMPONENT-500 COMPONENT-501 COMPONENT-502 COMPONENT-503 COMPONENT-504 COMPONENT-505 COMPONENT-506 COMPONENT-507 COMPONENT-508 COMPONENT-509 COMPONENT-510 COMPONENT-511 COMPONENT-512 COMPONENT-513 COMPONENT-514 COMPONENT-515 COMPONENT-516 COMPONENT-517 COMPONENT-518 COMPONENT-519 COMPONENT-520 COMPONENT-521 COMPONENT-522 COMPONENT-523 COMPONENT-524 COMPONENT-525 COMPONENT-526 COMPONENT-527 COMPONENT-528 COMPONENT-529 COMPONENT-530 COMPONENT-531 COMPONENT-532 COMPONENT-533 COMPONENT-534 COMPONENT-535 COMPONENT-536 COMPONENT-537 COMPONENT-538 COMPONENT-539 COMPONENT-540 COMPONENT-541 COMPONENT-542 COMPONENT-543 COMPONENT-544 COMPONENT-545 COMPONENT-546 COMPONENT-547 COMPONENT-548 COMPONENT-549 COMPONENT-550 COMPONENT-551 COMPONENT-552 COMPONENT-553 COMPONENT-554 COMPONENT-555 COMPONENT-556 COMPONENT-557 COMPONENT-558 COMPONENT-559 COMPONENT-560 COMPONENT-561 COMPONENT-562 COMPONENT-563 COMPONENT-564 COMPONENT-565 COMPONENT-566 COMPONENT-567 COMPONENT-568 COMPONENT-569 COMPONENT-570 COMPONENT-571 COMPONENT-572 COMPONENT-573 COMPONENT-574 COMPONENT-575 COMPONENT-576 COMPONENT-577 COMPONENT-578 COMPONENT-579 COMPONENT-580 COMPONENT-581 COMPONENT-582 COMPONENT-583 COMPONENT-584 COMPONENT-585 COMPONENT-586 COMPONENT-587 COMPONENT-588 COMPONENT-589 COMPONENT-590 COMPONENT-591 COMPONENT-592 COMPONENT-593 COMPONENT-594 COMPONENT-595 COMPONENT-596 COMPONENT-597 COMPONENT-598 COMPONENT-599 COMPONENT-600 COMPONENT-601 COMPONENT-602 COMPONENT-603 COMPONENT-604 COMPONENT-605 COMPONENT-606 COMPONENT-607 COMPONENT-608 COMPONENT-609 COMPONENT-610 COMPONENT-611 COMPONENT-612 COMPONENT-613 COMPONENT-614 COMPONENT-615 " ++
  "COMPONENT-616 COMPONENT-617 COMPONENT-618 COMPONENT-619 COMPONENT-620 COMPONENT-621 COMPONENT-622 COMPONENT-623 COMPONENT-624 COMPONENT-625 COMPONENT-626 COMPONENT-627 COMPONENT-628 COMPONENT-629 COMPONENT-630 COMPONENT-631 COMPONENT-632 COMPONENT-633 COMPONENT-634 COMPONENT-635 COMPONENT-636 COMPONENT-637 COMPONENT-638 COMPONENT-639 COMPONENT-640 COMPONENT-641 COMPONENT-642 COMPONENT-643 COMPONENT-644 COMPONENT-645 COMPONENT-646 COMPONENT-647 COMPONENT-648 COMPONENT-649 COMPONENT-650 COMPONENT-651 COMPONENT-652 COMPONENT-653 COMPONENT-654 COMPONENT-655 COMPONENT-656 COMPONENT-657 COMPONENT-658 COMPONENT-659 COMPONENT-660 COMPONENT-661 COMPONENT-662 COMPONENT-663 COMPONENT-664 COMPONENT-665 COMPONENT-666 COMPONENT-667 COMPONENT-668 COMPONENT-669 COMPONENT-670 COMPONENT-671 COMPONENT-672 COMPONENT-673 COMPONENT-674 COMPONENT-675 COMPONENT-676 COMPONENT-677 COMPONENT-678 COMPONENT-679 COMPONENT-680 COMPONENT-681 COMPONENT-682 COMPONENT-683 COMPONENT-684 COMPONENT-685 COMPONENT-686 COMPONENT-687 COMPONENT-688 COMPONENT-689 COMPONENT-690 COMPONENT-691 COMPONENT-692 COMPONENT-693 COMPONENT-694 COMPONENT-695 COMPONENT-696 COMPONENT-697 COMPONENT-698 COMPONENT-699 COMPONENT-700 COMPONENT-701 COMPONENT-702 COMPONENT-703 COMPONENT-704 COMPONENT-705 COMPONENT-706 COMPONENT-707 COMPONENT-708 COMPONENT-709 COMPONENT-710 COMPONENT-711 COMPONENT-712 COMPONENT-713 COMPONENT-714 COMPONENT-715 COMPONENT-716 COMPONENT-717 COMPONENT-718 COMPONENT-719 COMPONENT-720 COMPONENT-721 COMPONENT-722 COMPONENT-723 COMPONENT-724 COMPONENT-725 COMPONENT-726 COMPONENT-727 COMPONENT-728 COMPONENT-729 COMPONENT-730 COMPONENT-731 COMPONENT-732 COMPONENT-733 COMPONENT-734 COMPONENT-735 COMPONENT-736 COMPONENT-737 COMPONENT-738 COMPONENT-739 COMPONENT-740 COMPONENT-741 COMPONENT-742 COMPONENT-743 COMPONENT-744 COMPONENT-745 COMPONENT-746 COMPONENT-747 COMPONENT-748 COMPONENT-749 COMPONENT-750 COMPONENT-751 COMPONENT-752 COMPONENT-753 COMPONENT-754 COMPONENT-755 COMPONENT-756 COMPONENT-757 " ++
  "COMPONENT-758 COMPONENT-759 COMPONENT-760 COMPONENT-761 COMPONENT-762 COMPONENT-763 COMPONENT-764 COMPONENT-765 COMPONENT-766 COMPONENT-767 COMPONENT-768 COMPRESSION COMPUTERS CONCAVE-POINTED CONFETTI CONFLICT CONFOUNDED CONFUSED CONGRUENT CONICAL CONJUGATE CONJUNCTION CONSTANCY CONTEMPLATION CONTENTION CONTINUATION CONTINUING CONTINUOUS CONTOURED CONTRACTION CONTRARIETY CONVENIENCE COOKED COOKING COOL COP COPPER-2 COPY COPYLEFT CORAL CORK CORNISH CORONIS CORPORATION CORPSE CORRECT CORRESPONDS COT COUCH COUNTERBORE COUNTERSINK COUPLE COWBOY COX CRAB CRACKER CRAYON CREATIVE CRESCENDO CROCODILE CROISSANT CROIX CRUCIBLE CRUCIBLE-2 CRUCIBLE-3 CRUCIBLE-4 CRUCIBLE-5 CRUCIFORM CRUTCH CRUZEIRO CRYSTAL CUAM CUCUMBER CUO CUOX CUPCAKE CUPIDO CUR CURLED CURLING CURRY CURX CUSTARD CUSTOMER CUSTOMS CUX CWEORTH CYAW CYAY CYCLONE CYLINDRICITY CYPERUS CYR CYRENAIC CYRX CYX D001 D002 D003 D004 D005 D006 D007 D008 D008A D009 D010 D011 D012 D013 D014 D015 D016 D017 D018 D019 D020 D021 D022 D023 D024 D025 D026 D027 D027A D028 D029 D030 D031 D031A D032 D033 D034 D034A D035 D036 D037 D038 D039 D040 D041 D042 D043 D044 D045 D046 D046A D047 D048 D048A D049 D050 D050A D050B D050C D050D D050E D050F D050G D050H D050I D051 D052 D052A D053 D054 D054A D055 D056 D057 D058 D059 D060 D061 D062 D063 D064 D065 D066 D067 D067A D067B D067C D067D D067E D067F D067G D067H D2 DAADHU DAASU DAEG DAENG DAG3 DAGALGA DAGAZ DAGBASINNA DAGS DAH DAHYAAUSH DAHYAAUSH-2 DAI DAING DAIR DALAT DALETH-RESH DAM DAMARU DANCER DANCING DANGO DANTAYALAN DARA4 DARGA DART DASEIA DATA DAVID DAVIYANI DAWB DAX DAY-NIGHT DD DDAP DDAT DDAX DDEE DDEP DDEX DDHE DDHEE DDHI DDHU DDIE DDIEP DDIEX DDIP DDIT DDIX DDOA DDOP DDOT DDOX DDUO DDUOP DDUOX DDUP DDURX DDUT DDUX DDWA DEAD DEAF DEBIT DECAYED DECEMBER DECIDUOUS DECISIVENESS DECORATIVE DECRESCENDO DEEL DEEPLY DEFECTIVENESS DEFINITION DEHI DEK DEKA DELETION DELICIOUS DELIVERANCE DELIVERY DELPHIC DELT DENARIUS DENG DENNEN DEP DEPARTMENT DEPTH DERBITSA DERELICT DERET DERET-HIDET DESI " ++
  "DESIGN DESK DEUNG DEVELOPMENT DEX DEYTEROU DHAA DHAALU DHADHE DHAL DHALATH DHALETH DHAMEDH DHARMA DHEE DHHA DHHE DHHEE DHHI DHHO DHHOO DHHU DHI DHII DHOO DHOU DHU DIAERESIS-RING DIAERESIZED DIAMETER DIARGON DIATONON DIEP DIESEL DIEX DIFAT DIFFERENCE DIFFICULTIES DIFFICULTY DIFTOGGOS DIGITS DIGRAMMA DIL DIMENSION DIMENSIONAL DIMIDIA DIMINISHMENT DIMINUTION-2 DIMINUTION-3 DIMMING DING DIP DIPLOUN DIPPER DIPTE DIRGA DISABLED DISCONTINUOUS DISGUISED DISPERSION DISPUTED DISSOLVE DISSOLVE-2 DISTILL DISTINGUISH DISTORTION DIT DITTO DIVERGENCE DIVIDERS DIVIDES DIVING DIVORCE DIX DIYA DJ DL DLE DLEE DLHA DLHYA DLI DLO DLU DNA DO-O DOA DODO DOING DOIT DOKMAI DOLIUM DOLPHIN DOMAIN DOONG DOP DOROME DORU DOTS-1 DOTS-12 DOTS-123 DOTS-1234 DOTS-12345 DOTS-123456 DOTS-1234567 DOTS-12345678 DOTS-1234568 DOTS-123457 DOTS-1234578 DOTS-123458 DOTS-12346 DOTS-123467 DOTS-1234678 DOTS-123468 DOTS-12347 DOTS-123478 DOTS-12348 DOTS-1235 DOTS-12356 DOTS-123567 DOTS-1235678 DOTS-123568 DOTS-12357 DOTS-123578 DOTS-12358 DOTS-1236 DOTS-12367 DOTS-123678 DOTS-12368 DOTS-1237 DOTS-12378 DOTS-1238 DOTS-124 DOTS-1245 DOTS-12456 DOTS-124567 DOTS-1245678 DOTS-124568 DOTS-12457 DOTS-124578 DOTS-12458 DOTS-1246 DOTS-12467 DOTS-124678 DOTS-12468 DOTS-1247 DOTS-12478 DOTS-1248 DOTS-125 DOTS-1256 DOTS-12567 DOTS-125678 DOTS-12568 DOTS-1257 DOTS-12578 DOTS-1258 DOTS-126 DOTS-1267 DOTS-12678 DOTS-1268 DOTS-127 DOTS-1278 DOTS-128 DOTS-13 DOTS-134 DOTS-1345 DOTS-13456 DOTS-134567 DOTS-1345678 DOTS-134568 DOTS-13457 DOTS-134578 DOTS-13458 DOTS-1346 DOTS-13467 DOTS-134678 DOTS-13468 DOTS-1347 DOTS-13478 DOTS-1348 DOTS-135 DOTS-1356 DOTS-13567 DOTS-135678 DOTS-13568 DOTS-1357 DOTS-13578 DOTS-1358 DOTS-136 DOTS-1367 DOTS-13678 DOTS-1368 DOTS-137 DOTS-1378 DOTS-138 DOTS-14 DOTS-145 DOTS-1456 DOTS-14567 DOTS-145678 DOTS-14568 DOTS-1457 DOTS-14578 DOTS-1458 DOTS-146 DOTS-1467 DOTS-14678 DOTS-1468 DOTS-147 DOTS-1478 DOTS-148 DOTS-15 DOTS-156 DOTS-1567 DOTS-15678 DOTS-1568 DOTS-157 DOTS-1578 DOTS-158 DOTS-16 DOTS-167 " ++
  "DOTS-1678 DOTS-168 DOTS-17 DOTS-178 DOTS-18 DOTS-2 DOTS-23 DOTS-234 DOTS-2345 DOTS-23456 DOTS-234567 DOTS-2345678 DOTS-234568 DOTS-23457 DOTS-234578 DOTS-23458 DOTS-2346 DOTS-23467 DOTS-234678 DOTS-23468 DOTS-2347 DOTS-23478 DOTS-2348 DOTS-235 DOTS-2356 DOTS-23567 DOTS-235678 DOTS-23568 DOTS-2357 DOTS-23578 DOTS-2358 DOTS-236 DOTS-2367 DOTS-23678 DOTS-2368 DOTS-237 DOTS-2378 DOTS-238 DOTS-24 DOTS-245 DOTS-2456 DOTS-24567 DOTS-245678 DOTS-24568 DOTS-2457 DOTS-24578 DOTS-2458 DOTS-246 DOTS-2467 DOTS-24678 DOTS-2468 DOTS-247 DOTS-2478 DOTS-248 DOTS-25 DOTS-256 DOTS-2567 DOTS-25678 DOTS-2568 DOTS-257 DOTS-2578 DOTS-258 DOTS-26 DOTS-267 DOTS-2678 DOTS-268 DOTS-27 DOTS-278 DOTS-28 DOTS-3 DOTS-34 DOTS-345 DOTS-3456 DOTS-34567 DOTS-345678 DOTS-34568 DOTS-3457 DOTS-34578 DOTS-3458 DOTS-346 DOTS-3467 DOTS-34678 DOTS-3468 DOTS-347 DOTS-3478 DOTS-348 DOTS-35 DOTS-356 DOTS-3567 DOTS-35678 DOTS-3568 DOTS-357 DOTS-3578 DOTS-358 DOTS-36 DOTS-367 DOTS-3678 DOTS-368 DOTS-37 DOTS-378 DOTS-38 DOTS-4 DOTS-45 DOTS-456 DOTS-4567 DOTS-45678 DOTS-4568 DOTS-457 DOTS-4578 DOTS-458 DOTS-46 DOTS-467 DOTS-4678 DOTS-468 DOTS-47 DOTS-478 DOTS-48 DOTS-5 DOTS-56 DOTS-567 DOTS-5678 DOTS-568 DOTS-57 DOTS-578 DOTS-58 DOTS-6 DOTS-67 DOTS-678 DOTS-68 DOTS-7 DOTS-78 DOTS-8 DOTTED-L DOTTED-N DOTTED-P DOUBLE-ENDED DOUBT DOUGHNUT DOWNSCALING DOX DRAFTING DRIL DROMEDARY DROOLING DROP DROPS DRUMSTICKS DUB2 DUCK DUDA DUGUD DUH DUM DUMPLING DUN4 DUO DUOX DUP DUPONDIUS DUR DUR2 DURATION DURX DUSHENNA DUSK DUT DUTIES DUX DVA DVD DVISVARA DVOECHELNOKRYZHEVAYA DVOETOCHIE DVUMYA DWA DWO DYAN DZAA DZAY DZHOI DZITA DZYAY DZYI DZZA E-2 E-3 E-4 E-5 E-6 E-MAIL E001 E002 E003 E004 E005 E006 E007 E008 E008A E009 E009A E010 E011 E012 E013 E014 E015 E016 E016A E017 E017A E018 E019 E020 E020A E021 E022 E023 E024 E025 E026 E027 E028 E028A E029 E030 E031 E032 E033 E034 E034A E036 E037 E038 EABHADH EADHADH EAMHANCHOLL EARLY EASE EBEFILI EDD EDIN EDITORIAL EEBEEFILI EEH EEKAA EEN EEYANNA EGGS EGIR EHWAZ EIGHT-THIRTY EIGHTIETH EIS " ++
  "EJECT EKAM EKARA EKS EKSTREPTON ELAFRON ELECTRICAL ELECTRONICS ELEVATOR ELEVATUS ELEVEN-THIRTY ELF ELIF ELT EMBELLISHMENT EMBLEM EMBROIDERY EMPHATIC ENARMONIOS ENARXIS ENCOUNTERS ENDEAVOUR ENDEP ENDOFONON ENLARGEMENT ENNI ENOS ENQUIRY ENTERING ENTHUSIASM ENTRY-1 ENTRY-2 ENUMERATION EO-EU EO-O EO-U EOH EOLHX EPEGERMA EPOCH EQ EQUIANGULAR EQUID ERG ERS ES-1 ES-2 ES-3 ES-TE ESH16 ESH21 ESO ESS ESTIMATED ESTIMATES ESUKUUDO ETHEL ETNAHTA EU-A EU-E EU-EO EU-EU EU-O EU-U EULER EURO-CURRENCY EUROPE-AFRICA EVENING EVERGREEN EVERY EXCELLENT EXCESS EXCHANGE EXCITEMENT EXHALE EXHAUSTION EXIST EXISTS EXPLODING EXPONENT EXPRESSIONLESS EXTINGUISHER EXTRA EXTRATERRESTRIAL EYANNA EYBEYFILI EYEBROW EYEGLASSES EYYY F001 F001A F002 F003 F004 F005 F006 F007 F008 F009 F010 F011 F012 F013 F013A F014 F015 F016 F017 F018 F019 F020 F021 F021A F022 F023 F024 F025 F026 F027 F028 F029 F030 F031 F031A F032 F033 F034 F035 F036 F037 F037A F038 F038A F039 F040 F041 F042 F043 F044 F045 F045A F046 F046A F047 F047A F048 F049 F050 F051 F051A F051B F051C F052 F053 FAAFU FAAI FAAMAE FACE-1 FACE-2 FACE-3 FACE-4 FACE-5 FACE-6 FACINGS FACSIMILE FACTORY FAHRENHEIT FAIB FAIHU FAILURE FAIRY FAJ FALAFEL FALLEN FAM FANG FAP FAQ FAR FAST FAT FATIGUE FAYANNA FEAR FEARFUL FEARN FEBRUARY FEEM FEENG FEHU FELLOWSHIP FENCER FEOH FERRIS FERRY FESTIVAL FETH FEUFEUAET FEUX FF FFI FFL FHTORA FIGHT FIGURE-1 FIGURE-2 FIGURE-3 FII FILLED FILLER-1 FILLER-2 FINGERNAILS FINITE FIP FIRECRACKER FIREWORK FIREWORKS FIRI FISHEYE FISHING FISTED FIT FIVE-LINE FIVE-THIRTY FIX FL FLA FLAG-1 FLAG-2 FLAG-3 FLAG-4 FLAG-5 FLAGS FLAMINGO FLASH FLATNESS FLEUR-DE-LIS FLEXED FLIGHT FLOORPLANE FLOWERS FLOWING FLUSHED FM FOG FOGGY FOLDED FOLLY FON FONDUE FONGMAN FOOL FOOTPRINTS FOOTSTOOL FOP FORCE FORCES FORKING FORMATTING FORMS FORTE FORTUNE FOSTERING FOUR-LINE FOUR-PER-EM FOUR-STRING FOUR-THIRTY FRAGMENT FRAGRANT FRAMES FRANC FREEZING FRICATIVE FRIED FRIES FRONT-FACING FUA FUEL FUET FUJI FULLNESS FUNERAL FUP FURX FUSE FUT FUX FWE FY FYA FYP FYT " ++
  "FYX G001 G002 G003 G004 G005 G006 G006A G007 G007A G007B G008 G009 G010 G011 G011A G012 G013 G014 G015 G016 G017 G018 G019 G020 G020A G021 G022 G023 G024 G025 G026 G026A G027 G028 G029 G030 G031 G032 G033 G034 G035 G036 G036A G037 G037A G038 G039 G040 G041 G042 G043 G043A G044 G045 G045A G046 G047 G048 G049 G050 G051 G052 G053 G054 G2 GAAFU GAAHLAA GADOL GAG GAI GALAM GAM GAMAN GAML GAMLA GANDA GANMA GAR3 GARDEN GARLIC GARMENT GARON GASHAN GAT GAUNTLET GAX GB GBAKURUNEN GBAYI GBEN GBET GBEUX GBIEE GBON GCAN GDAN GE22 GEBA GEBO GEDE GEDOLA GEEM GEM GEMINATE GEMINI GEN GENERIC GENIE GENITIVE GENTLE GEOMETRIC GER GERMAN GET GETA GEX GG GGAA GGAP GGAT GGAX GGEE GGEP GGET GGEX GGIE GGIEP GGIEX GGIT GGIX GGOT GGOX GGUOP GGUOT GGUOX GGUP GGUR GGURX GGUT GGUX GGWA GGWAA GGWE GGWEE GGWI GH GHAAMAE GHAINU GHAMAL GHAMMA GHAP GHARAE GHAYN GHEE GHET GHEUAEGHEUAE GHEUAERAE GHEUGHEN GHEUGHEUAEM GHEUN GHEUX GHEYS GHI GHIMEL GHOM GHOU GHU GHWA GHZ GIBA GIDIM GIE GIEP GIET GIEX GIFT GIG GIGA GIMEL-HETH GINII GIP GIRAFFE GIRL GIRLS GIRUDAA GISAL GIT GIX GLA GLASSES GLEICH GLOVE GLOVES GLOWING GN GNAVIYANI GOA GOAT GOBLIN GOGGLES GOING GOK GOLFER GONG GOO GOOD GOP GORA GORGOSYNTHETON GORGOTERI GORILLA GORT GOX GPA GRADUAL GRADUATION GRAF GRAIN GRAMMA GRAPES GRAPHEME GRATER GRAVE-ACUTE-GRAVE GRAVE-MACRON GRAVEYARD GREATNESS GRIMACING GRONTHISMATA GROWING GUA GUAN GUARANI GUARDEDNESS GUARDSMAN GUEI GUIDE GUITAR GUO GUOP GUOT GUOX GUP GURAMU GURAMUTON GURUN GURUSH GURX GUT GUX GVANG GW GWAA GWU GY GYA GYAA GYAN GYE GYEE GYFU GYI GYO GYU H-TYPE H001 H002 H003 H004 H005 H006 H006A H007 H008 HA-1 HA-10 HA-11 HA-2 HA-3 HA-4 HA-5 HA-6 HA-7 HA-8 HA-9 HA-HA HAAM HAARU HADES HAEGL HAFUKH HAFUKHA HAGL HAGLAZ HAI HAIRCUT HAIS HAITU HALBERD HALF-1 HALF-2 HALO HALQA HAM HAMBURGER HAMSA HAMSTER HAN-AKAT HANDBAG HANDBALL HANDLES HANDSHAKE HANG HAO HAP HAPPY HARBAHAY HARDNESS HARMONIC HASER HATCHING HATHI HAUPTSTIMME HAWJ HAX HAY HAYANNA HBASA-ESASA HC HDR HE-1 HE-2 HE-3 HE-4 HE-5 HE-6 HE-7 HE-GOAT " ++
  "HEAD-BANDAGE HEADING HEADPHONE HEADSCARF HEAR-NO-EVIL HEARING HEAVENLY HEDGEHOG HEEI HEIGHT HEISEI HEKUTAARU HELICOPTER HELIX HELLSCHREIBER HELM HEMP HEP HERAEUM HERB HERMES HERMITIAN HERUTU HEX HEXIFORM HEYT HHE HHEE HHI HHO HHU HHWE HHWEE HHWI HHYA HHYAA HHYE HHYEE HHYI HHYO HHYU HI-1 HI-2 HI-3 HI-4 HI-5 HI-6 HI-7 HI-RES HIBISCUS HIDE HIDET HIDING HIEUH-MIEUM HIEUH-NIEUN HIEUH-PIEUP HIEUH-RIEUL HIEUH-SIOS HIEX HIGH-HEELED HIGH-LOW HIKING HINDU HIPPOPOTAMUS HISTORIC HIZB HK HL HLAP HLAT HLAU HLAX HLE HLEP HLEX HLIE HLIEP HLIEX HLIP HLIT HLIX HLO HLOP HLOX HLU HLUO HLUOP HLUOX HLUP HLUR HLURX HLUT HLUX HLY HLYP HLYR HLYRX HLYT HLYX HM HMA HMAP HMAT HMAX HME HMI HMIE HMIEP HMIEX HMIP HMIT HMIX HMOP HMOT HMOX HMU HMUO HMUOP HMUOX HMUP HMUR HMURX HMUT HMUX HMY HMYP HMYR HMYRX HMYX HNAP HNAT HNAU HNAX HNE HNEP HNEX HNI HNIE HNIEP HNIET HNIEX HNIP HNIT HNIX HNOP HNOT HNOX HNUB HNUO HNUOX HNUT HO-1 HO-2 HO-3 HO-4 HO-5 HO-6 HO-7 HO-8 HOA HOCHO HOI HOKA HOM HONEY HONEYBEE HOON HOOP HOORU HOOU HOP HORIZONTAL-00-00 HORIZONTAL-00-01 HORIZONTAL-00-02 HORIZONTAL-00-03 HORIZONTAL-00-04 HORIZONTAL-00-05 HORIZONTAL-00-06 HORIZONTAL-01-00 HORIZONTAL-01-01 HORIZONTAL-01-02 HORIZONTAL-01-03 HORIZONTAL-01-04 HORIZONTAL-01-05 HORIZONTAL-01-06 HORIZONTAL-02-00 HORIZONTAL-02-01 HORIZONTAL-02-02 HORIZONTAL-02-03 HORIZONTAL-02-04 HORIZONTAL-02-05 HORIZONTAL-02-06 HORIZONTAL-03-00 HORIZONTAL-03-01 HORIZONTAL-03-02 HORIZONTAL-03-03 HORIZONTAL-03-04 HORIZONTAL-03-05 HORIZONTAL-03-06 HORIZONTAL-04-00 HORIZONTAL-04-01 HORIZONTAL-04-02 HORIZONTAL-04-03 HORIZONTAL-04-04 HORIZONTAL-04-05 HORIZONTAL-04-06 HORIZONTAL-05-00 HORIZONTAL-05-01 HORIZONTAL-05-02 HORIZONTAL-05-03 HORIZONTAL-05-04 HORIZONTAL-05-05 HORIZONTAL-05-06 HORIZONTAL-06-00 HORIZONTAL-06-01 HORIZONTAL-06-02 HORIZONTAL-06-03 HORIZONTAL-06-04 HORIZONTAL-06-05 HORIZONTAL-06-06 HORIZONTALLY HOSPITAL HOTA HOX HOY HPA HPWG HRYVNIA HTTA HU-1 HU-2 HU-3 HUAN HUARADDO HUB HUIITO HUK HUL2 HUNG HUO HUOP HUOT HUOX HURAN HUSH HUSHED HUT HUVA HWA " ++
  "HWAH HWEE HWI HWO HWU HXA HXAP HXAT HXAX HXE HXEP HXEX HXI HXIE HXIEP HXIET HXIEX HXIP HXIX HXO HXOT HXOX HXUOP HXUOT HXUOX HXWG HYGIEA HYGIEIA HYPODIASTOLE HYSTERESIS HZG HZT HZW HZWG HZZ HZZP HZZZ HZZZG I-1 I-2 I-3 I-4 I-A I-ARAEA I-BEAM I-EU I-I I-O I-O-I I-U I-YA I-YA-O I-YAE I-YE I-YEO I-YO I-YU I001 I002 I003 I004 I005 I005A I006 I007 I008 I009 I009A I010 I010A I011 I011A I012 I013 I014 I015 IANG IBIFILI ICELANDIC-YR ICHADIN ICHOU ID IDEOGRAPH-4E00 IDEOGRAPH-4E2D IDEOGRAPH-4EA4 IDEOGRAPH-518D IDEOGRAPH-521D IDEOGRAPH-524D IDEOGRAPH-5272 IDEOGRAPH-52DD IDEOGRAPH-53CC IDEOGRAPH-53F3 IDEOGRAPH-5408 IDEOGRAPH-5439 IDEOGRAPH-55B6 IDEOGRAPH-58F0 IDEOGRAPH-591A IDEOGRAPH-5929 IDEOGRAPH-5B57 IDEOGRAPH-5B89 IDEOGRAPH-5DE6 IDEOGRAPH-5F8C IDEOGRAPH-624B IDEOGRAPH-6295 IDEOGRAPH-6307 IDEOGRAPH-6355 IDEOGRAPH-6557 IDEOGRAPH-6599 IDEOGRAPH-65B0 IDEOGRAPH-6620 IDEOGRAPH-6708 IDEOGRAPH-6709 IDEOGRAPH-672C IDEOGRAPH-6E80 IDEOGRAPH-6F14 IDEOGRAPH-70B9 IDEOGRAPH-7121 IDEOGRAPH-751F IDEOGRAPH-7533 IDEOGRAPH-76D7 IDEOGRAPH-7981 IDEOGRAPH-7A7A IDEOGRAPH-7D42 IDEOGRAPH-89E3 IDEOGRAPH-8CA9 IDEOGRAPH-8D70 IDEOGRAPH-904A IDEOGRAPH-914D IDLE IEP IET IEUNG-CHIEUCH IEUNG-CIEUC IEUNG-HIEUH IEUNG-KHIEUKH IEUNG-MIEUM IEUNG-PANSIOS IEUNG-PHIEUPH IEUNG-PIEUP IEUNG-RIEUL IEUNG-SIOS IEUNG-SSANGKIYEOK IEUNG-THIEUTH IEUNG-TIKEUT IEX IF IFIN IGGWS IIYANNA IL2 ILIMMU3 ILIMMU4 ILUT ILUUYANNA ILUY ILUYANNA IMAALA IMIDIARGON IMIFONON IMIFTHORA IMIFTHORON IMIN3 IMISEOS IMN IMP IN-ALAF INAP INBOX INCH INCLUDING INCOMING INCOMPLETE INCREASES INCREMENT INDIAN INDICTION INDIRECT INDUSTRIAL INFLUENCE INGWAZ INHALE ININGU INK INN INNN INNOCENCE INSECT INTERCALATE INTEREST INTERLOCKED INTERSYLLABIC INTI INVERTEBRATE INY INYA IODHADH IONG IOR IP IRB IRI IRON-COPPER IRUUYANNA IRUYANNA ISAKIA ISAZ ISEN-ISEN ISHMAAM ISLAND ISS ITEM ITS IUJA IWAZ IWN IYANNA IZ IZAKAYA JACK-O-LANTERN JACKS JAH JAIN JALL JALLAJALALOUHOU JANUARY JAPAN JAVIYANI JAYIN JAYN JEANS JER JERA JERAN JERUSALEM JEU JHAA JHAM JHAYIN JHO JHOX JIA " ++
  "JIE JIEP JIET JIEX JIGSAW JIP JIT JIX JJE JJEE JJIEP JJIET JJIEX JJIP JJIT JJIX JJOP JJOT JJOX JJUO JJUOP JJUOX JJUP JJUR JJURX JJUX JJYP JJYT JJYX JOA JOINTS JONG JOP JOVE JOX JOYOUS JOYSTICK JUDEO-SPANISH JUDGE JUDUL JUEUI JUGGLING JULY JUNE JUNO JUO JUOP JUOT JUOX JUP JUPITER JUR JURX JUT JUU JUX JY JYP JYR JYRX JYT JYX K001 K002 K003 K004 K005 K006 K007 K008 K2 KA-1 KA-10 KA-11 KA-2 KA-3 KA-4 KA-5 KA-6 KA-7 KA-8 KA-9 KA-KE KAAB KAABA KAACU KAAFU KAAI KAAN KAANKUU KAAV KACHKA KAD KAD4 KAFA KAIB KAIRI KAIV KAKABAT KAM KAM2 KAM4 KANAKO KANGAROO KANTAJA KAPAL KAPO KAQ KAR KARAN KARATTO KAROR KARORAN KARORII KARSHANA KAT KATAVA KATAVASMA KATHISTI KAUB KAUN KAUNA KAUV KAV KAWB KAWI KAWV KAX KB KCAL KE-1 KE-2 KE-3 KE-4 KE-5 KE-6 KEAAE KEB KEEB KEENG KEESU KEEV KEFULA KELVIN KEMBANG KEMPHRENG KENAT KEOW KEP KERET KES KEUAE KEUAEM KEUAERI KEUAETMEUN KEUKAQ KEUKEUTNDA KEUOT KEUP KEUPUQ KEUSEUX KEUSHEUAEP KEUYEUX KEV KEX KHAB KHAF KHAMILO KHAN KHANDA KHAV KHEE KHETH KHIT KHITAN KHOMUT KHON KHONNA KHOT KHOU KHU KHUAT KHUDAM KHUEN-LUE KHWAI KHZ KI-1 KI-2 KI-3 KI-4 KI-5 KI-6 KI-7 KI-8 KIAB KIAV KIB KICK KIE KIEEM KIEP KIEX KIH KII KIIZH KILLER KIMONO KINDERGARTEN KINSHIP KIQ KIRO KIROGURAMU KIROMEETORU KIROWATTO KISAL KISH KITE KIV KIW KIWIFRUIT KIX KIYEOK-CHIEUCH KIYEOK-HIEUH KIYEOK-KHIEUKH KIYEOK-NIEUN KIYEOK-PIEUP KIYEOK-RIEUL KIYEOK-SIOS-KIYEOK KIYEOK-TIKEUT KKE KKEE KKI KKO KKU KL KLA KLITON KLYUCHENEPOSTOYANNY KLYUCHEPOVODNAYA KLYUCHEPOVODNY KLYUCHEVOY KNEELING KNOBS KNOT KO-1 KO-2 KO-3 KO-KI KOA KOALA KOB KOBYLA KOGHOM KOH KOINI KOKE KOKO KOMBU KOOB KOOMUUT KOOPO KOOV KOP KOQNDON KORON KORUNA KOT KOUFISMA KOV KOVUU KOX KPAH KPAN KPARAQ KPEN KPEUX KPOQ KRA KRATIMATA KRATIMOKOUFISMA KRATIMOYPORROON KREMASTI KRONOS KRYZHEVAYA KT KU-1 KU-2 KU-3 KU-4 KU-5 KU-6 KU-7 KU7 KUA KUAB KUAV KUB KUET KUFISMA KUG KUNDDALIYA KUNG KUO KUOM KUOQ KUOX KUP KUPNAYA KUQ KUROONE KURT KURUNI KURUZEIRO KURX KUSMA KUUH KUV KUX KUZHI KV KWAET KWAY KWB KWM KWU318 KWV KXAA KXE KXEE KXI KXO KXU " ++
  "KXWA KXWAA KXWE KXWEE KXWI KYAA KYATHOS KYE KYI KYLISMA KYO KYU KYURII L-TYPE L001 L002 L002A L003 L004 L005 L006 L006A L007 L008 L2 L3 L4 L6 LAAI LAAMU LAAN LAANAE LAB LABAT LABEL LABIALIZATION LABOURING LACA LACK LACROSSE LADDER LADY LAEV LAGU LAGUS LAH LAHSHU LAJANYALAN LAK-003 LAK-020 LAK-021 LAK-025 LAK-030 LAK-051 LAK-062 LAK-080 LAK-092 LAK-130 LAK-142 LAK-210 LAK-219 LAK-220 LAK-225 LAK-228 LAK-238 LAK-265 LAK-266 LAK-343 LAK-347 LAK-348 LAK-383 LAK-384 LAK-390 LAK-441 LAK-450 LAK-457 LAK-470 LAK-483 LAK-490 LAK-492 LAK-493 LAK-495 LAK-550 LAK-608 LAK-636 LAK-668 LAK-724 LAK-749 LAKHAN LAKKHANGYAO LAMADH LAMBDA LAMD LAND LANGUAGE LANTERN LAPAQ LAQ LARI LARYNGEAL LAT LATE LATIK LAU LAUGHING LAUJ LAUKAZ LAX LAY LAYAR LCI LD LD2 LDAN LEAD LEADING LEAFY LEDGER LEEK LEFT-HANDED LEFT-LIGHTED LEFT-SIDE LEGION LEGS LEI LEMOI LEMON LENGTH-1 LENGTH-2 LENGTH-3 LENGTH-4 LENGTH-5 LENGTH-6 LENGTH-7 LEO LEOPARD LEP LESS LEUAEM LEUAEP LEUM LEVEL-2 LEVEL-3 LEVITATING LEX LHAG LHAVIYANI LHE LHEE LHII LHOO LHU LHYA LIABILITY LIBERTY LIBRA LICKING LIEE LIEP LIET LIEX LIFE LIFTER LIGATING LIGHTHOUSE LII LIL LILITH LILY LIMBS LIME LIMIT LIMITATION LIMITED LIMMU2 LIMMU4 LINE-1 LINE-3 LINE-7 LINE-9 LINGSA LINKED LINKING LION LIPSTICK LIQ LIS LIT LITRA LIVRE LIX LIZARD LLAMA LLE LLHA LLL LM LN LOA LOBSTER LOCATION-FLOORPLANE LOCATION-WALLPLANE LOCATIVE LODESTONE LOG LOGR LOLL LOLLIPOP LOMKA LOMMAE LONG-BRANCH-AR LONG-BRANCH-HAGALL LONG-BRANCH-MADR LONG-BRANCH-OSS LONG-BRANCH-SOL LONG-BRANCH-YR LONG-LEGGED LOOK LOON LOP LORRAINE LORRY LOS LOSSLESS LOT LOTION LOUDLY LOUDSPEAKER LOURE LOW-MID LOW-REVERSED-9 LOX LUAEP LUB LUHUR LUIS LUNGS LUNGSI LUO LUOP LUOT LUOX LUP LUR LURX LUS LUT LUX LX LYA LYGISMA LYING LYIT LYP LYRX LYT LYX LYY M001A M001B M003A M010A M012A M012B M012C M012D M012E M012F M012G M012H M015A M016A M017A M022A M024A M028A M031A M033A M033B M040A M045 M046 M047 M048 M049 M050 M051 M052 M053 M054 M055 M056 M057 M058 M059 M060 M061 M062 M063 M064 M065 M066 M067 M068 M069 " ++
  "M070 M071 M072 M073 M074 M075 M076 M077 M078 M079 M080 M081 M082 M083 M084 M085 M086 M087 M088 M089 M090 M091 M092 M093 M094 M095 M096 M097 M098 M099 M100 M101 M102 M103 M104 M105 M106 M107 M108 M109 M110 M111 M112 M113 M114 M115 M116 M117 M118 M119 M120 M121 M122 M123 M124 M125 M126 M127 M128 M129 M130 M131 M132 M133 M134 M135 M136 M137 M138 M139 M140 M141 M142 M143 M144 M145 M146 M147 M148 M149 M150 M151 M152 M153 M154 M155 M156 M157 M158 M159 M160 M161 M162 M163 M164 M165 M166 M167 M168 M169 M170 M171 M172 M173 M174 M175 M176 M177 M178 M179 M180 M181 M182 M183 M184 M185 M186 M187 M188 M189 M190 M191 M192 M193 M194 M195 M196 M197 MA-1 MA-2 MA-3 MA-4 MA-5 MA-6 MA-7 MA2 MAAI MAAYYAA MACRON-ACUTE MACRON-BREVE MACRON-GRAVE MADU MADYA MAEKEUP MAELEE MAEMBGBIEE MAEMGBIEE MAEMKPEN MAEMVEUX MAENJET MAENYI MAGE MAGIC MAGNET MAHAPAKH MAHHA MAIDEN MAIKURO MAIMALAI MAIMUAN MAIRU MAITAIKHU MAIYAMOK MAIZE MALEERI MALTESE MAMMOTH MANACLES MANAT MANGALAM MANGO MANNA MANNAZ MANS MANSUAE MANSYON MANTELPIECE MANUAL MAO MAPLE MAQAF MARCASITE MARCATO MARCATO-STACCATO MARCH MARE MARK-4 MARKS MARRATAN MARRIAGE MARRYING MARTIAL MARUKU MARWARI MARY MASCULINE MASHFAAT MASORA MASSAGE MASSING MASU MAT MATE MATERIALS MATRIX MATTOCK MAU MAX MAXIMA MAXIMIZE MAYANNA MB2 MB3 MB4 MBAAKET MBAARAE MBAQ MBEEKEET MBERAE MBEURI MBEUX MBIRIEEN MBUAE MBUAEM MBUE MBUO MBUOQ MBUU MD ME-1 ME-2 ME-MA MED MEDICAL MEDICINE MEEMU MEETORU MEGALI MEGAPHONE MEGATON MEIZI MELIK MELODIC MELTING MEMBERSHIP MEMO MENDUT MENOE MENORAH MENS MERI MERIDIANS MERPERSON MESI MESSENIAN META METEG METEK METOBELUS METRETES METRIA METRO MEUNJOMNDEUQ MEUQ MEX MEZZO MFAA MFEUAE MFEUQ MFEUT MFIEE MFIYAQ MFO MG MGA MGAP MGAT MGAX MGBASA MGBASAQ MGBE MGBEE MGBEN MGBEUN MGBI MGBIEE MGBO MGBOFUM MGBOO MGBU MGE MGEP MGEX MGIE MGIEX MGOP MGOT MGOX MGU MGUO MGUOP MGUOX MGUP MGUR MGURX MGUT MGUX MH MHZ MI-1 MI-2 MI-3 MI-4 MI-5 MI-6 MI-7 MICRO MICROBE MICROSCOPE MIE MIEP MIEUM-CHIEUCH MIEUM-CIEUC MIEUM-HIEUH MIEUM-NIEUN MIEUM-PIEUP-SIOS " ++
  "MIEUM-RIEUL MIEUM-SSANGNIEUN MIEUM-SSANGSIOS MIEUM-TIKEUT MIEX MII MIIN MIKRI MIKRON MIKURON MIL MILK MILKY MILL MILLET MIME MINIBUS MINIDISC MINIMIZE MINISTER MINUS-OR-PLUS MINY MIP MIRED MIRI MIRIBAARU MISRA MIX MKPARAQ ML MNYAM MO-1 MO-2 MO-3 MO-4 MO-5 MO-6 MOA MODE MODEL MODELS MODEM MODERN MODESTY MODIFIER-10 MODIFIER-11 MODIFIER-12 MODIFIER-13 MODIFIER-14 MODIFIER-15 MODIFIER-16 MODIFIER-7 MODIFIER-8 MODIFIER-9 MODULO MOHAMMAD MOKHASSAS MOL MONEY-MOUTH MONGKEUAEQ MONI MONOCLE MONORAIL MONOSTABLE MONSTER MONTIEEN MOOMEUT MOOMPUQ MOOSE-CREE MORNING MORPHOLOGICAL MORTUUM MOSQUE MOSQUITO MOT MOTORCYCLE MOTORIZED MOTORWAY MOUNT MOUNTAINS MOVED MOVES MOVIE MOX MOYAI MQ MR MRACHNO MRACHNOTIKHAYA MRACHNY MS MU-1 MU-2 MU-3 MU-4 MU-GAAHLAA MUAS MUE MUEN MUGS MUIN MUKHA MUKKURUNI MUKPHRENG MULTI MULTIOCULAR MUM MUN MUNAH MUNSUB MUO MUOMAE MUOP MUOT MUOX MUP MUQDAM MUR MURE MURGU2 MURX MUS MUSHROOM MUT MUTHALIYA MUUSIKATOAN MUUVUZHAKKU MUX MVEUAENGAM MVI MX MYP MYT MYX MZ N-MU-MO-1 N-MU-MO-2 N001 N002 N003 N004 N005 N006 N007 N008 N009 N010 N011 N012 N013 N014 N015 N016 N017 N018 N018A N018B N019 N020 N021 N022 N023 N024 N025 N025A N026 N027 N028 N029 N030 N031 N032 N033 N033A N034 N034A N035 N035A N036 N037 N037A N038 N039 N040 N041 N042 NA-1 NA-3 NA-4 NA-5 NA-6 NA-7 NA-8 NA-9 NA4 NAAI NAAKSIKYAYA NAGAR NAIL NAIRA NAN NAND NANGMONTHO NANO NANSANAQ NAOS NAP NAU NAUD NAUDIZ NAUSEATED NAUTHS NAX NAXIAN NAY NAZAR NBA NBAP NBAT NBAX NBI NBIEP NBIEX NBIP NBIT NBIX NBO NBOP NBOT NBOX NBU NBUP NBUR NBURX NBUT NBUX NBY NBYP NBYR NBYRX NBYT NBYX NCA NCHAU ND NDAANGGEUAET NDAT NDAX NDEP NDEUAEREE NDEUT NDEUX NDEX NDIAQ NDIDA NDIE NDIEX NDIP NDIQ NDIT NDIX NDOMBU NDON NDOP NDOT NDOX NDUN NDUP NDUR NDURX NDUT NDUX NE-1 NE-3 NE-4 NE-5 NE-6 NE-KO NEBENSTIMME NECKTIE NEEDLE NEGATION NEL NEMKA NENANO NEP NERD NESSUS NESTING NETWORKED NEUTER NEX NEXT NF NGAAI NGAH NGAI NGAN NGANGU NGAP NGAQ NGAT NGAX NGEADAL NGEP NGEUREUT NGEX NGG NGGAA NGGAAMAE NGGAP NGGEEEE NGGEET NGGEU NGGEUAE NGGEUX " ++
  "NGGUA NGGUAEN NGGUAESHAE NGGUEET NGGUM NGGUOM NGGUON NGGUP NGGURAE NGGWAEN NGIE NGIEP NGIEX NGII NGKAAMI NGKAP NGKAQ NGKEUAEM NGKEUAEQ NGKEURI NGKEUX NGKIEE NGKINDI NGKUENZEUM NGKUM NGKUN NGKUP NGKYEE NGOO NGOQ NGOT NGOX NGU NGUAE NGUAET NGUAN NGUE NGUN NGUO NGUOT NGUOX NGVE NGYE NH NHAY NHJA NHUE NI-1 NI-2 NI-3 NI-4 NI-5 NI-6 NI-7 NI-TE NI2 NIA NIE NIEP NIEUN-CHIEUCH NIEUN-PIEUP NIEUN-RIEUL NIEUN-THIEUTH NIEX NIGGAHITA NIGIDAESH NIGIDAMIN NIHSHVASA NIKA NIKAHIT NIKHAHIT NIN9 NINE-THIRTY NINJA NINTH NION NIP NIRUGU NISAG NIT NITRE NIX NJAA NJAP NJAQ NJEEEE NJEUAEM NJEUAENA NJEUT NJIE NJIEE NJIEP NJIET NJIEX NJIP NJIT NJIX NJOP NJOT NJOX NJUO NJUOX NJUP NJUQA NJUR NJURX NJUX NJY NJYP NJYR NJYRX NJYT NJYX NKA NKAU NKINDI NKOM NL001 NL002 NL003 NL004 NL005 NL005A NL006 NL007 NL008 NL009 NL010 NL011 NL012 NL013 NL014 NL015 NL016 NL017 NL017A NL018 NL019 NL020 NLAU NM NNAA NNE NNG NNGA NNGAA NNGI NNGII NNGO NNGOO NNHA NNO NNYA NO-1 NO-2 NO-3 NO-4 NO-5 NOA NOKHUK NOMINAL NOMISMA NON NON-BREAKING NON-JOINER NON-POTABLE NONFORKING NOONU NOP NORDIC NORTHEAST-POINTING NORTHWEST NOTTO NOVEMBER NOVILE NOWC NOX NOY NPA NPLA NQA NQIG NRAP NRAT NRAX NRE NREP NRES NRET NREX NRO NROP NROX NRU NRUA NRUP NRUR NRURX NRUT NRUX NRY NRYP NRYR NRYRX NRYT NRYX NS NSA NSEN NSEUAEN NSHAQ NSHEE NSHUE NSHUET NSHUOP NSIEEP NSIEET NSOM NSUM NSUN NSUOT NTA NTEN NTEUNGBA NTHAU NTIEE NTOQPEN NTSA NTSAU NTU NTUJ NTUM NTXA NTXIV NU-1 NU-2 NU-3 NU001 NU002 NU003 NU004 NU005 NU006 NU007 NU008 NU009 NU010 NU010A NU011 NU011A NU012 NU013 NU014 NU015 NU016 NU017 NU018 NU018A NU019 NU020 NU021 NU022 NU022A NUE NUM NUMBERS NUMERO NUNAVUT NUO NUOP NUOX NUP NUR NURX NUSHU NUUN NUX NW NYAEMAE NYAH NYAJ NYAN NYCA NYD NYEN NYIE NYIEP NYIET NYIEX NYIN NYIN-DO NYIR NYIX NYJA NYOA NYON NYOO NYOT NYOX NYUE NYUN NYUO NYUOP NYUOX NYUP NYUT NYUX NYWA NZAP NZAQ NZAT NZAX NZE NZEUM NZEX NZI NZIE NZIEP NZIEX NZIP NZIT NZIX NZOP NZOX NZU NZUN NZUO NZUOX NZUQ NZUR NZURX NZUX NZY NZYP NZYR NZYRX NZYT NZYX O-1 O-2 O-3 O-E O-EO " ++
  "O-O O-O-I O-U O-YA O-YAE O-YE O-YEO O001 O001A O002 O003 O004 O005 O005A O006 O006A O006B O006C O006D O006E O006F O007 O008 O009 O010 O010A O010B O010C O011 O012 O013 O014 O015 O016 O017 O018 O019 O019A O020 O020A O021 O022 O023 O024 O024A O025 O025A O026 O027 O028 O029 O029A O030 O030A O031 O032 O033 O033A O034 O035 O036 O036A O036B O036C O036D O037 O038 O039 O040 O041 O042 O043 O044 O045 O046 O047 O048 O049 O050 O050A O050B O051 OABOAFILI OAK OB OBELOS OBELUS OBJECT OBLACHKO OBLAKO OBOFILI OBOL OBSERVER OBSTRUCTION OC OCCLUSION OCHKOM OCTAGONAL OCTOBER OCTOPUS ODEN OER OEY OFF OFFICER OG OGRE OJEON OLE OMALON ON-OFF ONAP ONE-LINE ONE-PIECE ONE-THIRTY ONE-WAY ONESELF ONION ONKAR ONSU OOBOOFILI OOH OOMU OON OOYANNA OOZE OPEN-OUTLINED OPEN-P OPHIUCHUS OPPOSE OPPRESSION OPTION ORANGUTAN ORCHID ORE-2 ORIGIN ORNAMENTS ORTHODOX ORTHOGONAL OTHAL OTHALAN OTHER OTHERS OTSECHKA OTT OTTER OUNKIA OUTBOX OUTLINE OVERHEATED OWL OXEIAI OYANNA OYSTER OZ P001 P001A P002 P003 P003A P004 P005 P006 P007 P008 P009 P010 P011 P2 PAAI PAARAE PAARAM PAASENTO PAATU PACKAGE PACKING PADDLE PADMA PAGER PAGODA PAH PAINTBRUSH PAIRTHRA PAIYANNOI PALATALIZATION PALATALIZED PALETTE PALKA PALLAS PALLAWA PALMS PALUTA PAMAAEH PAMENENG PAMEPET PAMINGKAL PAMSHAE PAMUNGKAH PANAELAENG PANAM PANCAKES PANDA PANEULEUNG PANG PANGHULU PANGKAT PANGKON PANGLAYAR PANGLONG PANGRANGKEP PANGWISAD PANOLONG PANONGONAN PANSIOS-KAPYEOUNPIEUP PANSIOS-PIEUP PANYAKRA PANYANGGA PANYECEK PANYIKU PANYUKU PAO PAPERCLIP PAPERCLIPS PAPYRUS PARACHUTE PARAGRAPHUS PARAKLIT PAREREN PARICHON PARK PARROT PARTIALLY-RECYCLED PARUM PASEQ PASHAE PASHTA PASSED PASSENGER PASSIMBANG PASSIVE-PULL-DOWN-OUTPUT PASSIVE-PULL-UP-OUTPUT PASSPORT PASUQ PAT PATAK PATHAKKU PATHAMASAT PAUK PAUSE PAVIYANI PAX PAY PAZER PC PD PEACH PEACOCK PEANUTS PEAR PEDESTRIANS PEEI PEEKING PEEM PEEP PEESHI PEEZI PEITH PENETRATION PENGKAL PENGUIN PENIHI PENNY PENSIVE PENSU PENTATHLON PEORTH PERFORMING PERMANENT PERSEVERING PERSPECTIVE PERTHO PES PESETA PET PETASMA " ++
  "PETASTI PETASTOKOUFISMA PETRI PEUT PEUTAE PF PG PH PHAARKAA PHAB PHAM PHAN PHEE PHIEUPH-HIEUH PHIEUPH-SIOS PHIEUPH-THIEUTH PHILOSOPHERS PHINTHU PHNAEK PHOA PHOLUS PHONES PHU PHUNG PHUTHAO PHWA PIANO PIASTRE PIASUTORU PICKET PICKUP PIEEQ PIEET PIEP PIET PIEUP-KHIEUKH PIEUP-MIEUM PIEUP-NIEUN PIEUP-RIEUL PIEUP-RIEUL-PHIEUPH PIEUP-SIOS-CIEUC PIEUP-SIOS-PIEUP PIEUP-SIOS-THIEUTH PIEUP-SSANGSIOS PIEX PIKO PIKURU PILE PILL PINARBORAS PINATA PINCHED PINCHING PINE PINEAPPLE PIPING PIR2 PIRACY PIRIEEN PISCES PISTOL PIX PIZZA PIZZICATO PLACARD PLAK PLANET PLANT PLATE PLAYGROUND PLEADING PLETHRON PLHAU PLOW PLUG PLUK PLUM PLUMED PLUNGER PLURAL PLUS-MINUS PM POA POCKET PODATUS PODCHASHIEM PODVERTKA POETIC POINTO POINTS POKRYTIE POLKULIZMY POLNAYA POLO POLUPOVODNAYA PONDO POODLE POON POPCORN POPPER POPPING PORTABLE POSEIDON POSITIONS POSTBOX POSTPOSITION POTABLE POTTED POUCH POULTRY POURING POVODNY POWDER POWDERED POX POY PPA PPM PPV PR PRAYER PRECEDED PRECIPITATE PREFACE PRENKHA PRESCRIPTION PRESENT PRESSED PRETZEL PREVIOUS PRINCE PRINCESS PRINTS PRIVATE PROBING PROFOUND PROGRESS PROHIBITED PROJECTION PROJECTIVE PROJECTOR PROOF PROPERTY PROPORTIONAL PROSERPINA PROTOVARYS PROVE PS PSIFISTOLYGISMA PSIFISTOPARAKALESMA PSIFISTOSYNAGMA PSILON PTE PU2 PUAQ PUB PUBLIC PUCK PUFFED PUM PUMP PUNCTUS PUNG PUNGAAM PUO PUOP PUOX PUQ PUR PURIFY PURITY PURNAMA PURSE PURX PUSHING PUSHPIKA PUTNAYA PUTREFACTION PUUT PUX PUZZLE PV PW PWOY PY PYP PYR PYRX PYX PZ Q001 Q002 Q003 Q004 Q005 Q006 Q007 QAAFU QAAI QADMA QAIRTHRA QALA QAPH QAQ QARNEY QAU QAY QEE QETANA QGA QHA QHAA QHAU QHE QHEE QHI QHO QHOPH QHU QHWA QHWAA QHWE QHWEE QHWI QIE QIEP QIET QIEX QIF QIP QIT QIX QN QOA QOP QOPA QOX QP QUADCOLON QUANTITY QUATERNION QUBUTS QUDDISA QUESTIONED QUF QUICK QUINARIUS QUINCUNX QUINTESSENCE QUINTILE QUK QUOP QUOT QUOX QUP QUR QURX QUSHSHAYA QUT QUUV QUX QWA QWAA QY QYA QYAA QYE QYEE QYI QYO QYP QYR QYRX QYT QYU QYX R001 R002 R002A R003 R003A R003B R004 R005 R006 R007 R008 R009 R010 R010A R011 R012 R013 " ++
  "R014 R015 R016 R016A R017 R018 R019 R020 R021 R022 R023 R024 R025 R026 R027 R028 R029 RA-1 RA-3 RA-4 RA-KARA RA2 RA3 RAAI RAB RACCOON RADIOACTIVE RAEM RAH RAHIMAHU RAHIMAHUM RAHMATULLAH RAI RAIDA RAIDO RAIL RAINBOW RAKHANG RAMBAT RAN RAPISMA RAQ RASHA RASOUL RASWADI RATA RATIO RAU RAVNO RAX RAYANNA RAZOR RAZSEKA RE-1 RE-2 RE-3 RE-4 REAHMUK REALGAR REALGAR-2 RECEIPT RECEPTIVE RECITATIVE RECORDER RECORDING RECREATIONAL RECYCLED REFERENCE REGIA REGIA-2 REGISTERED REGULUS-2 REGULUS-3 REGULUS-4 REI REID REIWA RELAA RELATIONAL RELEASE RELIGION REMEDY REMINDER REMU RENTOGEN REP REPH REPHA REPRESENT REREKAN RESH-AYIN RESH-AYIN-DALETH RESIDENCE RESISTANCE RESOLUTION RESTROOM RESUPINUS RETORT RETREAT REU REVERSED-SCHWA REVIA REVMA REVOLUTION REX RH RHINOCEROS RHOTIC RI-1 RI-2 RI-3 RI-4 RI-5 RI-6 RI-7 RIAL RICEM RICKSHAW RIEL RIEUL-CIEUC RIEUL-KIYEOK-HIEUH RIEUL-MIEUM-HIEUH RIEUL-MIEUM-KIYEOK RIEUL-MIEUM-SIOS RIEUL-PIEUP-HIEUH RIEUL-PIEUP-PHIEUPH RIEUL-PIEUP-TIKEUT RIEUL-SSANGPIEUP RIEUL-SSANGSIOS RIEUL-SSANGTIKEUT RIEUL-TIKEUT-HIEUH RIEUL-YEORINHIEUH-HIEUH RIEUL-YESIEUNG RIFLE RIGHT-HANDED RIGHT-LIGHTED RIGHT-SIDE RIGHTHAND RIGVEDIC RIM RIMGBA RIN RINFORZANDO RINGED RINGING RIP RIRA RITTORU RITUAL RIVER RJES RMT RO-1 RO-2 RO-3 RO-4 RO-5 RO-6 RO2 ROA ROAR ROASTED ROBAT ROBOT ROGOM ROLL ROLLED-UP ROM ROOF ROOM ROOSTER ROP ROSE ROSH ROT ROUND-TIPPED ROWBOAT ROX RRAX RREP RRET RREX RROP RROT RROX RRRA RRU RRUO RRUOX RRUP RRUR RRURX RRUT RRUX RRY RRYP RRYR RRYRX RRYT RRYX RTE RTHANG RU-1 RU-2 RU-3 RU-4 RU-5 RU-6 RUA RUBLE RUE RUGBY RUIS RUKKAKHA RULAI RULE RULE-DELAYED RUN RUNNER RUNOUT RUO RUOP RUOX RUP RUPII RUR RURX RUSI RUT RUUBURU RUX RWAHA RWE RWEE RWI RWII RWO RWOO RYA RYP RYR RYRX RYT RYX RYY S-W S001 S002 S002A S003 S004 S005 S006 S006A S007 S008 S009 S010 S011 S012 S013 S014 S014A S014B S015 S016 S017 S017A S018 S019 S020 S021 S022 S023 S024 S025 S026 S026A S026B S027 S028 S029 S030 S031 S032 S033 S034 S035 S035A S036 S037 S038 S039 S040 S041 S042 S043 S044 S045 S046 " ++
  "SA-1 SA-3 SA-4 SA-5 SA-6 SA-7 SA-8 SA-I SAADHU SAAI SACRIFICIAL SAGA SAGITTARIUS SAIKURU SAIL SAILBOAT SAJDAH SAKE SAKEUAE SAKHA SAKIN SAKOT SAKTA SAL-AMMONIAC SALA SALAAMUHU SALAD SALAM SALLALLAAHU SALLALLAHU SALT-2 SALUTING SAMKA SAMPHAO SAMVAT SAMYOK SANAH SAND SANDWICH SANGA2 SANNYA SANTIIMU SANYOOGA SAPA SAQ SASH SATCHEL SATKAAN SATKAANKUU SATURN SAUCER SAUIL SAUROPOD SAVOURING SAWAN SAX SAXIMATA SAXOPHONE SBRUL SBUB SCALES SCARF SCEPTER SCHOLAR SCHROEDER SCORE SCORPION SCORPIUS SCREAMING SCREWDRIVER SCROLL SCRUPLE SCWA SD SDONG SE-1 SE-2 SE-3 SE-4 SE-5 SEAGULL SEAT SECRET SECTOR SEDNA SEE-NO-EVIL SEEDLING SEENU SEEV SELECTOR-1 SELECTOR-10 SELECTOR-100 SELECTOR-101 SELECTOR-102 SELECTOR-103 SELECTOR-104 SELECTOR-105 SELECTOR-106 SELECTOR-107 SELECTOR-108 SELECTOR-109 SELECTOR-11 SELECTOR-110 SELECTOR-111 SELECTOR-112 SELECTOR-113 SELECTOR-114 SELECTOR-115 SELECTOR-116 SELECTOR-117 SELECTOR-118 SELECTOR-119 SELECTOR-12 SELECTOR-120 SELECTOR-121 SELECTOR-122 SELECTOR-123 SELECTOR-124 SELECTOR-125 SELECTOR-126 SELECTOR-127 SELECTOR-128 SELECTOR-129 SELECTOR-13 SELECTOR-130 SELECTOR-131 SELECTOR-132 SELECTOR-133 SELECTOR-134 SELECTOR-135 SELECTOR-136 SELECTOR-137 SELECTOR-138 SELECTOR-139 SELECTOR-14 SELECTOR-140 SELECTOR-141 SELECTOR-142 SELECTOR-143 SELECTOR-144 SELECTOR-145 SELECTOR-146 SELECTOR-147 SELECTOR-148 SELECTOR-149 SELECTOR-15 SELECTOR-150 SELECTOR-151 SELECTOR-152 SELECTOR-153 SELECTOR-154 SELECTOR-155 SELECTOR-156 SELECTOR-157 SELECTOR-158 SELECTOR-159 SELECTOR-16 SELECTOR-160 SELECTOR-161 SELECTOR-162 SELECTOR-163 SELECTOR-164 SELECTOR-165 SELECTOR-166 SELECTOR-167 SELECTOR-168 SELECTOR-169 SELECTOR-17 SELECTOR-170 SELECTOR-171 SELECTOR-172 SELECTOR-173 SELECTOR-174 SELECTOR-175 SELECTOR-176 SELECTOR-177 SELECTOR-178 SELECTOR-179 SELECTOR-18 SELECTOR-180 SELECTOR-181 SELECTOR-182 SELECTOR-183 SELECTOR-184 SELECTOR-185 SELECTOR-186 SELECTOR-187 SELECTOR-188 SELECTOR-189 SELECTOR-19 SELECTOR-190 SELECTOR-191 SELECTOR-192 SELECTOR-193 SELECTOR-194 " ++
  "SELECTOR-195 SELECTOR-196 SELECTOR-197 SELECTOR-198 SELECTOR-199 SELECTOR-2 SELECTOR-20 SELECTOR-200 SELECTOR-201 SELECTOR-202 SELECTOR-203 SELECTOR-204 SELECTOR-205 SELECTOR-206 SELECTOR-207 SELECTOR-208 SELECTOR-209 SELECTOR-21 SELECTOR-210 SELECTOR-211 SELECTOR-212 SELECTOR-213 SELECTOR-214 SELECTOR-215 SELECTOR-216 SELECTOR-217 SELECTOR-218 SELECTOR-219 SELECTOR-22 SELECTOR-220 SELECTOR-221 SELECTOR-222 SELECTOR-223 SELECTOR-224 SELECTOR-225 SELECTOR-226 SELECTOR-227 SELECTOR-228 SELECTOR-229 SELECTOR-23 SELECTOR-230 SELECTOR-231 SELECTOR-232 SELECTOR-233 SELECTOR-234 SELECTOR-235 SELECTOR-236 SELECTOR-237 SELECTOR-238 SELECTOR-239 SELECTOR-24 SELECTOR-240 SELECTOR-241 SELECTOR-242 SELECTOR-243 SELECTOR-244 SELECTOR-245 SELECTOR-246 SELECTOR-247 SELECTOR-248 SELECTOR-249 SELECTOR-25 SELECTOR-250 SELECTOR-251 SELECTOR-252 SELECTOR-253 SELECTOR-254 SELECTOR-255 SELECTOR-256 SELECTOR-26 SELECTOR-27 SELECTOR-28 SELECTOR-29 SELECTOR-3 SELECTOR-30 SELECTOR-31 SELECTOR-32 SELECTOR-33 SELECTOR-34 SELECTOR-35 SELECTOR-36 SELECTOR-37 SELECTOR-38 SELECTOR-39 SELECTOR-4 SELECTOR-40 SELECTOR-41 SELECTOR-42 SELECTOR-43 SELECTOR-44 SELECTOR-45 SELECTOR-46 SELECTOR-47 SELECTOR-48 SELECTOR-49 SELECTOR-5 SELECTOR-50 SELECTOR-51 SELECTOR-52 SELECTOR-53 SELECTOR-54 SELECTOR-55 SELECTOR-56 SELECTOR-57 SELECTOR-58 SELECTOR-59 SELECTOR-6 SELECTOR-60 SELECTOR-61 SELECTOR-62 SELECTOR-63 SELECTOR-64 SELECTOR-65 SELECTOR-66 SELECTOR-67 SELECTOR-68 SELECTOR-69 SELECTOR-7 SELECTOR-70 SELECTOR-71 SELECTOR-72 SELECTOR-73 SELECTOR-74 SELECTOR-75 SELECTOR-76 SELECTOR-77 SELECTOR-78 SELECTOR-79 SELECTOR-8 SELECTOR-80 SELECTOR-81 SELECTOR-82 SELECTOR-83 SELECTOR-84 SELECTOR-85 SELECTOR-86 SELECTOR-87 SELECTOR-88 SELECTOR-89 SELECTOR-9 SELECTOR-90 SELECTOR-91 SELECTOR-92 SELECTOR-93 SELECTOR-94 SELECTOR-95 SELECTOR-96 SELECTOR-97 SELECTOR-98 SELECTOR-99 SELENA SELFIE SEMISEXTILE SEMK SEMUNCIA SENTAGON SENTI SENTO SEP SEPARATED SEPTEMBER SEPTUPLE SERIOUS SERVICE SESQUIQUADRATE SESTERTIUS SETFON " ++
  "SEUAEQ SEUNYAM SEVEN-THIRTY SEVENTH SEVERANCE SEWING SEX SEXTANS SEXTANT-1 SEXTANT-12 SEXTANT-123 SEXTANT-1234 SEXTANT-12345 SEXTANT-12346 SEXTANT-1235 SEXTANT-12356 SEXTANT-1236 SEXTANT-124 SEXTANT-1245 SEXTANT-12456 SEXTANT-1246 SEXTANT-125 SEXTANT-1256 SEXTANT-126 SEXTANT-13 SEXTANT-134 SEXTANT-1345 SEXTANT-13456 SEXTANT-1346 SEXTANT-1356 SEXTANT-136 SEXTANT-14 SEXTANT-145 SEXTANT-1456 SEXTANT-146 SEXTANT-15 SEXTANT-156 SEXTANT-16 SEXTANT-2 SEXTANT-23 SEXTANT-234 SEXTANT-2345 SEXTANT-23456 SEXTANT-2346 SEXTANT-235 SEXTANT-2356 SEXTANT-236 SEXTANT-24 SEXTANT-245 SEXTANT-2456 SEXTANT-25 SEXTANT-256 SEXTANT-26 SEXTANT-3 SEXTANT-34 SEXTANT-345 SEXTANT-3456 SEXTANT-346 SEXTANT-35 SEXTANT-356 SEXTANT-36 SEXTANT-4 SEXTANT-45 SEXTANT-456 SEXTANT-46 SEXTANT-5 SEXTANT-56 SEXTANT-6 SEXTILE SEYK SG SGOR SGRA SH2 SHAB6 SHAK SHAKER SHAKTI SHALLOW SHALSHELET SHAMROCK SHAP SHAPE SHARA SHARK SHAVED SHAVIYANI SHAX SHAY SHCHOOI SHE-GOAT SHEENU SHEG9 SHEN SHEP SHEQEL SHESH2 SHESHLAM SHEUAE SHEUAEQ SHEUAEQTU SHEUOQ SHEVA SHEX SHIIN SHINDA SHINIG SHINTO SHIRAE SHIRT SHIYYAALAA SHOA SHOCKED SHOES SHOOI SHOOT SHOOTING SHORT-TWIG-AR SHORT-TWIG-BJARKAN SHORT-TWIG-HAGALL SHORT-TWIG-MADR SHORT-TWIG-NAUD SHORT-TWIG-OSS SHORT-TWIG-SOL SHORT-TWIG-TYR SHORT-TWIG-YR SHORTCAKE SHORTENER SHOT SHOU SHOULDERED SHOWER SHOX SHRA SHRAA SHRII SHRINE SHRO SHROO SHRUG SHUANGXI SHUBUR SHUENSHUET SHUEQ SHUFFLE SHUL SHUM SHUO SHUOP SHUOX SHUP SHURX SHUT SHUTTLECOCK SHUX SHV SHWOY SHYA SHYE SHYP SHYR SHYRX SHYT SHYX SI-1 SI-2 SI-3 SI-4 SI-5 SI-6 SIA SICKLE SICKNESS SIDDHI SIE SIEE SIEP SIEX SIGEL SIKI SILIQUA SILVER SINE SINGAAT SINKING SINOLOGICAL SINUSOID SIOS-IEUNG SIOS-KAPYEOUNPIEUP SIOS-KHIEUKH SIOS-PANSIOS SIOS-PHIEUPH SIOS-PIEUP-KIYEOK SIOS-SSANGSIOS SIP SIRINGU SIRRAH SISA SIT SITE SIX-LINE SIX-PER-EM SIX-STRING SIX-THIRTY SIXTEENTH-1 SIXTEENTH-2 SIXTY-FOURTHS SK SKATEBOARD SKIER SKIN SKOBA SKUNK SKW SKWA SLAVE SLAVONIC SLED SLEEP SLEEPY SLEUTH SLIDE SLIDER SLIDING SLING SLOPE SLOT SLOTH SLOWLY SMEAR " ++
  "SMIRKING SNA SNAIL SNAP SNEEZING SNOWBOARDER SO-1 SO-2 SO-3 SO-4 SO-5 SO-6 SO-7 SOA SOCCER SOCKS SOFTBALL SOFTNESS SOFTWARE-FUNCTION SON SONG SONJAM SOON SOP SOQ SORI SOS SOUNAP SOW SOWILO SOX SOY SP SPA SPAGHETTI SPARKLER SPARKLES SPARKLING SPATHI SPE SPEAK-NO-EVIL SPEAKING SPEEDBOAT SPENT SPESMILO SPI SPICE SPINE SPIRANT SPLASHING SPLITTING SPO SPONGE SPOOL SPORTS SPOT SPOUTING SPRECHGESANG SPRING SPRINGS SPROUT SPUNGS SPWA SPY SQUEEZED SQUID SQUISH SR SSAA SSANGARAEA SSANGCIEUC-HIEUH SSANGMIEUM SSANGRIEUL-KHIEUKH SSANGSIOS-KIYEOK SSANGSIOS-PIEUP SSANGSIOS-TIKEUT SSANGTHIEUTH SSANGTIKEUT-PIEUP SSANGYEORINHIEUH SSAP SSAT SSAX SSEE SSEP SSEX SSHE SSHIN SSIE SSIEP SSIEX SSIP SSIT SSIX SSOP SSOT SSOX SSUP SSUT SSUX SSY SSYP SSYR SSYRX SSYT SSYX ST2 STACCATISSIMO STACCATO STACKED STADIUM STALLION STAN STAND STANDING STANDSTILL STARK STARRED STARS STARTING STATION STATUE STAUROS STAVROU STEAMING STEAMY STENOGRAPHIC STEREO STETHOSCOPE STILL STIMME STIRRUP STOPPAGE STOPPING STOPWATCH STOVE STRAGGISMATA STRAIF STRAIGHTNESS STRAINER STRATIAN STRATUM-2 STRAW STRAWBERRY STREAMER STRENGTH STRETCH STRICTLY STRIDE STRIKETHROUGH STRIPE STROKE-1 STROKE-10 STROKE-11 STROKE-2 STROKE-3 STROKE-4 STROKE-5 STROKE-6 STROKE-7 STROKE-8 STROKE-9 STUDIO STUFFED STUPA STWA SU-1 SU-2 SU-3 SU-4 SU-5 SU-6 SU-7 SU-8 SUAB SUAE SUAEN SUAET SUAM SUBHAANAHU SUBITO SUBJECT SUBLIMATE-2 SUBLIMATE-3 SUBLIMATION SUBPUNCTIS SUCK SUCKING SUD SUD2 SUITABLE SUMASH SUMMER SUNFLOWER SUNSET SUO SUOP SUOX SUP SUPERFIXED SUPERHERO SUPERIMPOSED SUPERVILLAIN SUR9 SURE SURFER SURX SURYA SUSHI SUT SUTRA SUX SVETLO SVETLY SWAN SWG SWIMMER SWIMMING SWIMSUIT SWORD SWORDS SWUNG SWZ SY SYA SYI SYMBOL-10 SYMBOL-15 SYMBOL-16 SYMBOL-20 SYMBOL-21 SYMBOL-22 SYMBOL-25 SYMBOL-26 SYMBOL-27 SYMBOL-29 SYMBOL-3 SYMBOL-30 SYMBOL-32 SYMBOL-36 SYMBOL-37 SYMBOL-38 SYMBOL-39 SYMBOL-40 SYMBOL-42 SYMBOL-43 SYMBOL-45 SYMBOL-47 SYMBOL-48 SYMBOL-49 SYMBOL-6 SYMBOL-9 SYMMETRY SYNAFI SYNAGOGUE SYNCHRONOUS SYNDESMOS SYNEVMA SYOUWA SYP SYR SYRINGE " ++
  "SYRMA SYRMATIKI SYRX SYT SYX SZ SZA SZAA SZE SZEE SZI SZO SZU SZWA SZWG SZZ T-REX T-SHIRT T001 T002 T003 T003A T004 T005 T006 T007 T007A T008 T008A T009 T009A T010 T011 T011A T012 T013 T014 T015 T016 T016A T017 T018 T019 T020 T021 T022 T023 T024 T025 T026 T027 T028 T029 T030 T031 T032 T032A T033 T033A T034 T035 T036 TA-1 TA-3 TA-4 TA2 TAAALAA TAAF TAAI TAAM TAAQ TAASHAE TABAARAKA TABS TACO TAEN TAHALA TAILLESS TAISYOU TAK TAKE TAKEOUT TAKHALLUS TALENT TAMALE TAMAN TANA TANABATA TANG TANGERINE TAO TAP TAPER TAQ TARTAR TARTAR-2 TARUNG TAS TASHEEL TASSI TATTOOED TAUM TAURUS TAVIYANI TAWA TAWELLEMET TAX TAY TE-1 TE-3 TE-4 TE-5 TE-6 TE-7 TE-8 TE-9 TE-U TEA TEACUP TEAPOT TEAR TEAR-OFF TEARDROP-BARBED TEARDROP-SHANKED TEDDY TEEEE TEENS TEGEH TEIWS TEK TELESCOPE TELEVISION TELLER TELU TEMPLE TEN-THIRTY TENGE TENUTO TEP TERMINATOR TESSARON TEST TETRAFONIAS TETRAPLI TEU TEUN TEUT TEUTEUWEN TEUTEUX TEVIR TEX THAALU THAHAN THAJ THAMEDH THANNA THANTHAKHAT THAW THEA THEREFORE THERMODYNAMIC THES THETH THEY THIAB THICK THIGH THING THINKING THIRD-STAGE THIRTY-ONE THITA THIUTH THOA THOJ THOM THOU THREE-CIRCLE THREE-DOT THREE-EM THREE-HUNDRED-AND-TWENTIETH THREE-LEGGED THREE-LINE THREE-PER-EM THREE-THIRTY THROWING THUNDERSTORM THUNG THURISAZ THURS THWE THWEE THWI THWII THWO THWOO THYOOM THZ TI-1 TI-2 TI-3 TI-4 TI-5 TI-6 TI-7 TI2 TIARA TICKET TICKETS TIEP TIEX TII TIKEUT-CHIEUCH TIKEUT-MIEUM TIKEUT-SIOS-KIYEOK TIKEUT-THIEUTH TILES TILT TIMER TIN TINAGMA TINCTURE TING TINNE TIPEHA TIPPI TIRED TIRTA TIRYAK TITUAEP TIWAZ TIWR TIX TLEE TLHEE TLHOO TLHU TLHWE TLHYA TN TO-1 TO-2 TO-3 TO-4 TO-5 TO-6 TO-RA TOA TOANDAKHIAT TOCHKA TOILET TOKYO TOLONG TOMATO TOMPI TON TONE-B TONE-D TONE-G TONE-J TONE-M TONE-S TONE-V TONG TOOLBOX TOON TOOTHBRUSH TORCH TORNADO TORSO TORSO-FLOORPLANE TOS TOUCHES TOURNOIS TOV TOWER TOX TR TRACKBALL TRACTOR TRADE TRAILING TRAMWAY TRANSPLUTO TRANSVERSAL TRAP TRAPEZIUM TREADING TREDECILE TRESVETLO TRESVETLY TRI TRIA TRIFOLIATE TRIFONIAS TRIGORGON TRIISAP TRILL TRILLIONS " ++
  "TRION TRIPLI TRIPOD TRITOS TRIUMPH TROLL TROLLEY TROLLEYBUS TROMIKOLYGISMA TROMIKOPARAKALESMA TROMIKOPSIFISTON TROMIKOSYNAGMA TROPHY TRUMP-1 TRUMP-10 TRUMP-11 TRUMP-12 TRUMP-13 TRUMP-14 TRUMP-15 TRUMP-16 TRUMP-17 TRUMP-18 TRUMP-19 TRUMP-2 TRUMP-20 TRUMP-21 TRUMP-3 TRUMP-4 TRUMP-5 TRUMP-6 TRUMP-7 TRUMP-8 TRUMP-9 TRUMPET TRUNCATED TRUTH TRYASKA TRYASOGLASNAYA TRYASOPOVODNAYA TRYASOSTRELNAYA TRYBLION TSAA TSAADIY TSAB TSEEB TSERE TSHAB TSHEEJ TSHOOJ TSHUGS TSIU TSOV TSSA TSWA TSWB TT2 TTEE TTH TTHEE TTHOO TTHU TTHWE TTSA TTSE TTSEE TTSI TTSO TTSU TTTHA TTU TTUDDAG TU-1 TU-2 TU-3 TU-4 TU-TO TUAE TUAEP TUB TUBE TUGRIK TUKWENTIS TULIP TUMAE TUMBLER TUMETES TUNNY TUO TUOP TUOX TUPNI TURKEY TURKISH TURO2 TURU TURX TUT TUTEYASAT TUTTY TUUMU TUX TUXEDO TVIMADUR TWELFTH TWELVE-THIRTY TWENTY-EIGHT TWENTY-NINE TWENTY-SEVEN TWENTY-SIX TWISTED TWISTING TWO-EM TWO-LINE TWO-THIRTY TXA TXHEEJ TYA TYAY TYE TYI TYO TYPE-1 TYPE-1-2 TYPE-2 TYPE-7 TYR TZA TZAA TZE TZEE TZI TZIR TZO TZOA TZU U-1 U-2 U-3 U-4 U-5 U-A U-AE U-EO-EU U-I-I U-U U-YE U-YEO U001 U002 U003 U004 U005 U006 U006A U006B U007 U008 U009 U010 U011 U012 U013 U014 U015 U016 U017 U018 U019 U020 U021 U022 U023 U023A U024 U025 U026 U027 U028 U029 U029A U030 U031 U032 U032A U033 U034 U035 U036 U037 U038 U039 U040 U041 U042 UAN UANG UATH UBHAYATO UBUFILI UDAAT UDARKA UDUG UEA UEC UEE UEI UEN UEQ UEY UHD UIC UILLEANN UIQ UIUC UIUQ UIUX UIUZ UIX UIZ UMBIN UNA UNAMUSED UNAP UNASPIRATED UNBLENDED UNCERTAINTY UNCIA UNDERDOT UNDO UNEVEN UNG UNICORN UNIFORM UNITED UNITY UNKNOWN UNMARRIED UOG UON UOP UOX UPRIGHT UPSIDE-DOWN UQ UR4 URA URI URI3 URINE URN URUS URUZ USE USH2 USHENNA USHUMX USHX USSU USSU3 UTUKI UUU UUU2 UUU3 UUUU UUYANNA UWU UX UYANNA UZ UZHAKKU UZU V001 V001A V001B V001C V001D V001E V001F V001G V001H V001I V002 V002A V003 V004 V005 V006 V007 V007A V007B V008 V009 V010 V011 V011A V011B V011C V012 V012A V012B V013 V014 V015 V016 V017 V018 V019 V020 V020A V020B V020C V020D V020E V020F V020G V020H V020I V020J V020K V020L V021 " ++
  "V022 V023 V023A V024 V025 V026 V027 V028 V028A V029 V029A V030 V030A V031 V031A V032 V033 V033A V034 V035 V036 V037 V037A V038 V039 V040 V040A VAAVU VAJ VAKAIYARAA VALLEY VAMPIRE VAP VAPOURS VARAAKAN VAREIAI VARIKA VARYS VASIS VASTNESS VAT VATHY VAU VAX VAYANNA VC VECTOR VEHICLE VEIL VELI VER VERDIGRIS VERGE VERSICLE VERTICAL-00-00 VERTICAL-00-01 VERTICAL-00-02 VERTICAL-00-03 VERTICAL-00-04 VERTICAL-00-05 VERTICAL-00-06 VERTICAL-01-00 VERTICAL-01-01 VERTICAL-01-02 VERTICAL-01-03 VERTICAL-01-04 VERTICAL-01-05 VERTICAL-01-06 VERTICAL-02-00 VERTICAL-02-01 VERTICAL-02-02 VERTICAL-02-03 VERTICAL-02-04 VERTICAL-02-05 VERTICAL-02-06 VERTICAL-03-00 VERTICAL-03-01 VERTICAL-03-02 VERTICAL-03-03 VERTICAL-03-04 VERTICAL-03-05 VERTICAL-03-06 VERTICAL-04-00 VERTICAL-04-01 VERTICAL-04-02 VERTICAL-04-03 VERTICAL-04-04 VERTICAL-04-05 VERTICAL-04-06 VERTICAL-05-00 VERTICAL-05-01 VERTICAL-05-02 VERTICAL-05-03 VERTICAL-05-04 VERTICAL-05-05 VERTICAL-05-06 VERTICAL-06-00 VERTICAL-06-01 VERTICAL-06-02 VERTICAL-06-03 VERTICAL-06-04 VERTICAL-06-05 VERTICAL-06-06 VEST VESTA VEUAE VEUAEPEN VEUM VEUX VEX VEYZ VFA VHA VIBRATION VIDEOCASSETTE VIDJ VIDJ-2 VIE VIEP VIEWDATA VIEWER VIEWING VIEX VIGINTILE VILLAGE VINEGAR-2 VINEGAR-3 VIOLIN VIP VIRGA VIRGO VIRIAM VISARGAYA VIT VITAE VITAE-2 VITRIOL VITRIOL-2 VIX VOCALIZATION VOD VOICELESS VOID VOIDED VOLCANO VOLLEYBALL VOLTAGE VOLUME VOM VOMITING VOOI VOP VOT VOW VOWEL-CARRIER VOX VQ VS VUEQ VULCANUS VUP VURX VUT VUX VW VWA VWJ VX VYP VYR VYRX VYT VYX VZ VZMET W001 W002 W003 W003A W004 W005 W006 W007 W008 W009 W009A W010 W010A W011 W012 W013 W014 W014A W015 W016 W017 W017A W018 W018A W019 W020 W021 W022 W023 W024 W024A W025 WA-1 WA-2 WA-3 WA-4 WA-5 WA-AALIH WA-SALLAM WA-TAAALAA WAAALIHEE WAAJIB WAAVU WADDA WAEN WAFFLE WAI WAIST WALLPLANE WAN WAND WANDERER WANGKUOQ WAQFA WARNING WAS-SALAAM WASSALLAM WASTEBASKET WASTING WAT WATERMELON WATTO WB WE-1 WE-2 WE-3 WE-4 WEAPON WEB WEDDING WEDGE WEEN WELL WEN WEP WET WEUX WEX WG WH WHEELED WHITE-FEATHERED WI-1 " ++
  "WI-2 WI-3 WI-4 WI-5 WIANG WIANGWAAK WIDENING WIGGLES WIGNYAN WILTED WIN WINGS WINJA WINK WINTER WIRED WO-1 WO-2 WO-3 WO-4 WO-5 WO-6 WO-7 WOA WOE WOLF WOMEN WOMENS WOON WOP WORDSPACE WORKER WORLD WORM WORRIED WORSHIP WOW WOX WRAP WRAPPED WREATH WRESTLERS WRONG WRY WUAEN WUAET WUI WUN WUNJO WUOP WUOX WUP WVA WVE WVI WZ X-RAY X-X X001 X002 X003 X004 X004A X004B X005 X006 X006A X007 X008 X008A XAA XAPH XAU XAUS XEE XESTES XEYN XG XHEYN XIAB XIE XIEP XIET XIEX XIP XIRON XIT XIX XOA XOP XOPH XOR XOT XOX XSHAAYATHIYA XU XUO XUOX XVE XWA XWAA XWE XWEE XWI XY XYAA XYEE XYI XYO XYOO XYOOJ XYP XYR XYRX XYT XYU XYX Y001 Y001A Y002 Y003 Y004 Y005 Y006 Y007 Y008 YA-1 YA-2 YA-3 YA-4 YA-5 YA-O YA-U YAADO YAAI YAARU YAB YABH YACH YAD YADD YADDH YADH YAEMMAE YAF YAFU YAG YAGHH YAGN YAHH YAKASH YAKHH YAL YAMAKKAN YAMOK YARN YARR YAS YASH YASS YATH YATT YAU YAV YAW YAWNING YAYANNA YAYD YAZZ YEA YEEG YEIN YENAP YEO-O YEO-U YEO-YA YERAH YESIEUNG-HIEUH YESIEUNG-MIEUM YETIV YEUAE YEUAET YEUM YEUQ YEURAE YEUX YEW YEY YHA YI-U YIEE YIEP YIET YIEX YIH YII YING YIP YIX YIZET YO-1 YO-2 YO-3 YO-4 YO-5 YO-6 YO-A YO-AE YO-EO YO-O YO-YEO YO-YO YOA YOMO YOP YORI YOU YOUTHFUL YOUTHFULNESS YOWD YOX YOY YPORROI YPSILI YRY YU-1 YU-2 YU-3 YU-4 YU-A YU-AE YU-E YU-EO YU-O YU-U YUAEN YUAN YUE YUEQ YUI YUN YUO YUOM YUOT YUOX YUP YUR YURX YUUKALEAPINTU YUX YYAA YYE YYP YYR YYRX YYT YYX Z001 Z002 Z002A Z002B Z002C Z002D Z003 Z003A Z003B Z004 Z004A Z005 Z005A Z006 Z007 Z008 Z009 Z010 Z011 Z012 Z013 Z014 Z015 Z015A Z015B Z015C Z015D Z015E Z015F Z015G Z015H Z015I Z016 Z016A Z016B Z016C Z016D Z016E Z016F Z016G Z016H ZAEF ZAG ZAI ZAKRYTOE ZAMX ZANOZHEK ZAP ZAPYATYMI ZARL ZARQA ZAT ZAVIYANI ZAX ZAYIN-YODH ZE2 ZEBRA ZELO ZEP ZEUS ZEVOK ZEX ZH ZHAA ZHAIN ZHAP ZHAT ZHAX ZHAYIN ZHEP ZHET ZHEX ZHIL ZHOI ZHOO ZHOP ZHOT ZHOX ZHUO ZHUOP ZHUOX ZHUP ZHUR ZHURX ZHUT ZHUX ZHWA ZHY ZHYP ZHYR ZHYRX ZHYT ZHYX ZI3 ZIE ZIEP ZIEX ZIG ZILDE ZINOR ZIP ZIPPER-MOUTH ZIQAA ZIT ZIX ZMEYTSA ZOA ZOMBIE ZOP ZOX ZRA ZSA ZSHA ZUBUR ZUM ZUO ZUOP " ++
  "ZUOX ZURX ZUT ZUX ZWA ZWARAKAY ZWJ ZYGOS ZYP ZYR ZYRX ZYT ZYX ZZAA ZZAP ZZAT ZZAX ZZEE ZZEP ZZEX ZZIE ZZIEP ZZIEX ZZIP ZZIT ZZIX ZZOP ZZOX ZZSA ZZSYA ZZUP ZZUR ZZURX ZZUX ZZY ZZYA ZZYP ZZYR ZZYRX ZZYT ZZYX"

/-- The character names by code point. -/
def nameText : String :=
  "!20 o9 n4e2 mKe2 T1 wu1 y4U1 v5 u2 dkF bkF kD eu1 i& y7I jgi1 ni Egx Ee9 EeE EeP Eec Eej EfD EfO EfC EfW lp sA j51 lL1 j41 mZe2 y2nmn 750K 750eM 750hB 750gg 750eG 750iB 750gP 750gi 750eI 750hh 750gV 750f7 750g8 750fn 750eD 750hI 750j6 750ew 750ex 750gT 750e8 750gZ 750hc 750hK 750gw 750gs de3fP oNni be3fP hZiS fViN iMiS 730K 730eM 730hB 730gg 730eG 730iB 730gP 730gi 730eI 730hh 730gV 730f7 730g8 730fn 730eD 730hI 730j6 730ew 730ex 730gT 730e8 730gZ 730hc 730hK 730gw 730gs dlKfP ehiN blKfP gH !a0 yFio9 idn4e2 yOi1 y8#1 tF1 y5T1 y0GfF l81 hu yP71 yRJyYrlk oYeBiqmKe2 ig1 qzrw #J11 iX y6H1 #Ec1 mleE mleP gtiS z#S1 yZi1 eaeJ mN mle9 zyZyYrlk ngeBiqmKe2 ozgae9l6 ozgae9f6 ozgaePqQ idmZe2 750K2iM 750K2gt 750K2hZ 750K2gH 750K2hu 750K2ftc 750lj 750hB2mN 750eG2iM 750eG2gt 750eG2hZ 750eG2hu 750eI2iM 750eI2gt 750eI2hZ 750eI2hu 750vP 750fn2gH 750eD2iM 750eD2gt 750eD2hZ 750eD2gH 750eD2hu rM1 750eD2eW 750e82iM 750e82gt 750e82hZ 750e82hu 750gw2gt 750wT 730xZex 730K2iM 730K2gt 730K2hZ 730K2gH 730K2hu 730K2ftc 730lj 730hB2mN 730eG2iM 730eG2gt 730eG2hZ 730eG2hu 730eI2iM 730eI2gt 730eI2hZ 730eI2hu 730vP 730fn2gH 730eD2iM 730eD2gt 730eD2hZ 730eD2gH 730eD2hu vJ1 730eD2eW 730e82iM 730e82gt 730e82hZ 730e82hu 730gw2gt 730wT 730gw2hu 750K2iX 730K2iX 750K2jE 730K2jE 750K2qP 730K2qP 750hB2gt 730hB2gt 750hB2hZ 730hB2hZ 750hB2eJc 730hB2eJc 750hB2kL 730hB2kL 750gg2kL 730gg2kL 750gg2eW 730gg2eW 750eG2iX 730eG2iX 750eG2jE 730eG2jE 750eG2eJc 730eG2eJc 750eG2qP 730eG2qP 750eG2kL 730eG2kL 750gP2hZ 730gP2hZ 750gP2jE 730gP2jE 750gP2eJc 730gP2eJc 750gP2mN 730gP2mN 750gi2hZ 730gi2hZ 750gi2eW 730gi2eW 750eI2gH 730eI2gH 750eI2iX 730eI2iX 750eI2jE 730eI2jE 750eI2qP 730eI2qP 750eI2eJc 730oIeI 75WyTM 73WyTM 750hh2hZ 730hh2hZ 750gV2mN 730gV2mN 730zpu 750f72gt 730f72gt 750f72mN 730f72mN 750f72kL 730f72kL 750f72eaeJ 730f72eaeJ 750f72eW 730f72eW 750fn2gt 730fn2gt 750fn2mN 730fn2mN 750fn2kL 730fn2kL 730fn#FFrlu2 750rr 730rr 750eD2iX 730eD2iX 750eD2jE 730eD2jE 750eD2eBgt 730eD2eBgt 75WkS 73WkS 750ew2gt 730ew2gt " ++
  "750ew2mN 730ew2mN 750ew2kL 730ew2kL 750ex2gt 730ex2gt 750ex2hZ 730ex2hZ 750ex2mN 730ex2mN 750ex2kL 730ex2kL 750gT2mN 730gT2mN 750gT2kL 730gT2kL 750gT2eW 730gT2eW 750e82gH 730e82gH 750e82iX 730e82iX 750e82jE 730e82jE 750e82ftc 730e82ftc 750e82eBgt 730e82eBgt 750e82qP 730e82qP 750hc2hZ 730hc2hZ 750gw2hZ 730gw2hZ 750gw2hu 750gs2gt 730gs2gt 750gs2eJc 730gs2eJc 750gs2kL 730gs2kL 730g2ex 730eM2eW 750eM2eg 750eM2yAF 730eM2yAF 750fXfD 730fXfD 750g9eD 750hB2eg 730hB2eg 750y2Pgg 750gg2eg 750gg2yAF 730gg2yAF 730fuoU 750hGeG 750sr 750g9eG 750iB2eg 730iB2eg 750gP2eg 750n& 730y7H 750jW 750eI2eW 750gV2eg 730gV2eg 730f72fF 730zsA2eW 750fug8 750fn2deg 730fn2g2boZ 750eD2eagH 750eD2ld 730eD2ld 750y4H 730y4H 750hI2eg 730hI2eg 70ygb 750fXeE 730fXeE 750oq 70hGoqmv 730gT2mWeg 750gT2eg 730gT2eg 750gT2kdeg 750e82ld 730e82ld 750k4 750gZ2eg 750gw2eg 730gw2eg 750gs2eW 730gs2eW 750rs 750rshG 730rshG 730rs2j1 70eE2eW 750fXej 730fXej 70idlUi12eW 70yAc 70yCNsS 70yUwsS 70yMlsS 70kdsS 750tJ2kL 750gg230gs2kL 730tJ2kL 750yVK 750f7230hh 730yVK 750yXy 750fn230hh 730yXy 750K2kL 730K2kL 750eI2kL 730eI2kL 750eD2kL 730eD2kL 750e82kL 730e82kL 750e82huOiX 730e82huOiX 750e82huOgt 730e82huOgt 750e82huOkL 730e82huOkL 750e82huOiM 730e82huOiM 730fueG 750K2huOiX 730K2huOiX 750K2eJcOiX 730K2eJcOiX 750lj2iX 730lj2iX 750gP2eW 730gP2eW 750gP2kL 730gP2kL 750gV2kL 730gV2kL 750eD2qP 730eD2qP 750eD2qPOiX 730eD2qPOiX 750rs2kL 730rs2kL 730hh2kL 750tJ 750gg230gs 730tJ 750gP2gt 730gP2gt 750yT6 750yAc 750fn2iM 730fn2iM 750K2ftcOgt 730K2ftcOgt 750lj2gt 730lj2gt 750eD2eWOgt 730eD2eWOgt 750K2eBiM 730K2eBiM 750K2idjE 730K2idjE 750eG2eBiM 730eG2eBiM 750eG2idjE 730eG2idjE 750eI2eBiM 730eI2eBiM 750eI2idjE 730eI2idjE 750eD2eBiM 730eD2eBiM 750eD2idjE 730eD2idjE 750ew2eBiM 730ew2eBiM 750ew2idjE 730ew2idjE 750e82eBiM 730e82eBiM 750e82idjE 730e82idjE 750ex2i&eH 730ex2i&eH 750gT2i&eH 730gT2i&eH 750ygZ 730ygZ 750gi2kL 730gi2kL 750fn2g2boZ 730gg2ny 750v& 730v& 750gs2eg 730gs2eg 750K2eJc 730K2eJc 750eG2mN 730eG2mN 750eD2huOiX 730eD2huOiX " ++
  "750eD2gHOiX 730eD2gHOiX 750eD2eJc 730eD2eJc 750eD2eJcOiX 730eD2eJcOiX 750gw2iX 730gw2iX 730f72ny 730fn2ny 730gT2ny 730oIhh 730yPfm0 730#H3m0 750K2eW 750hB2eW 730hB2eW 750f72fF 750gT2gJeW 730ex2y1#j1 730gs2y1#j1 750lUi1 730lUi1 750eM2eW 750e8fF 750fugZ 750eG2eW 730eG2eW 750hh2eW 730hh2eW 7503j62egj1 730j62egj1 750ew2eW 730ew2eW 750gw2eW 730gw2eW 730fuK 730i9 730fui9 730eM2eg 730g9eD 730hB2ny 730gg2j1 730gg2eg 730hGeG 730sr 730sr2eg 730g9eG 730hGg9eG 730hGg9eG2eg 730kQhGg9eG 730oIhh2eW 730gP2eg 730frgP 7035gP 730n& 730yaZld 730fugi 730gi2eg 730y3Q2eg 730eI2eW 730jW 7035eI 730f72eagH 730f72sP 730f72kdeg 730y7y 730fug8 730fug82g2oZ 730g82eg 730fn2deg 730fn2kdeg 7035fn 730t8eD 7035kS 730kQi4 730nS 730fuew 730fuew2g2oZ 730fuew2eg 730ew2g2oZ 730ew2j1 730ew2vS 730hGew2vS 7035ew 7035idew 730ex2eg 730oq 730oIhh2eWOeg 730ycrhGoq 730oq2ny 730fugT 730gT2kdeg 730e8fF 730k4 730gZ2eg 730fugZ 730fuhc 730fugw 7035gw 730gs2kdeg 730gs2ny 730rs 730rs2ny 70lUi1 70w2t&zYJ 70idlUi1 70nUhB 70yBLsS 7035eM 730kQg9eG 7035gP2eg 7035gi 730hh2uF 730fugV 7035f7 730j62eg 70lUi12eW 70hGlUi12eW 730tJm0 730y6Lm0 730tJm02ny 730yAIm0 730yA5m0 730ydsm02ny 730yCtm0 730yVRm0 730yVbm0 70yBLyZN 70y&8yZN 730fugi2vS 730fugi2vSOj1 eL03gi eL03gi2eg eL03hh eL03ew eL03fuew eL03fuew2eg eL035idew eL03hc eL03gw eL0s8 eL0eBs8 eL0fui& eL0u2 eL0hGi& eL0bf6ft eL0df6ft eL0lUi1 eL0hGlUi1 eL0dht eL0bht eL0evht eL0fBht eL0hZiS kL eL0ehiN eL0iX eL0gtiS eL0iMiS eL0fVehiN eL0fViX eL0fViMiS eL0fVgtiS eL0oBlp eL0f6oBlp eL0u9bf6ft eL0u9df6ft eL0evla eL0fBla eL0eu1 eL0oM1 jE eJc ftc qP 3gH eBgtiS eL0#Jceg eL0jfiS eL03n& eL03f7 eL03ex eL03hK eL03hGlUi1 eL0y6jfXfF eL0fcfXfF eL0xJfXfF eL0fVfXfF eL0y6kfXfF eL0v1yCOfXe2 eL0sKyCOfXe2 eL0yfm eL0#i7 eL0eBu2 eL0fVfBht eL0fVevht eL0fVdht eL0fVbht eL0fVft eL0eaiMiS eL0eaeBiMiS eL0eaeBgtiS eL0fVgH eL0lflp eL0v9fcfX eL0m1fcfX eL0v9fVfX eL0m1fVfX eL0ybt eL0g9ybt eL0fVdR ViMiS VgtiS VhZiS VgH ViX Vw0 VjE VeJc Vhu Vegc Vftc VeBgtiS VkL VehiNc VeBehiNc VeBiMiS Vlb VidjE Vfui&c Vi&c VhGi&c Vi&cb " ++
  "ViMiSeH VgtiSeH VdlaeH VblaeH Vdiqc Vld Vdf6fteH VevlaeH VfBlaeH Veu1eH VoM1eH V#BoegeH VkdegeH VeJeH VhueH VfteH Vi&eH VmN VqP VehiNeH Vy0FeH VideByN0eH VkLeH VhZiSeH VjEeH VidjEeH VgHeH ViXeH VfViN VeBfViN VgHnp ViDeWnp Vg2eWnp ViDninp Vg2ninp Vbf6fteH Vidy0FeH Ve3eH V#NteH VhKc VehgH VeBw0 ViMfXe2 VgtfXe2 VXkA VXyEI VXpRox VXlA Vy0Fc VlL1eH VeBehiNeH VdiqeH ViggHc VyS&c VpifyeQc VdbReH VgMReH Vzc4xA Vbhtc Vdf6ftc VyCu VhKeH VdhteH VbhteH VbhtOevhteH Vbf6ftc VeJcb VkDeH VeBfteH VsMc VeBjEeH VeBjE VeBiX VeBiXeH VeBgH VeBidjE VeBepReH V730K V730eG V730eI V730eD V730e8 V730hB V730gg V730gi V730g8 V730ew V730gT V730gZ V730hK X50ySj X30ySj X50kny1k X30kny1k Xho1 Xf3ho1 X50yZ5y0T X30yZ5y0T !37a XlA X3hGtbnFB X3kZtbnFB X3hGkZtbnFB XmZe2 X50y5V !384 Xox XpRox X50i92ox Xv6ydv X50l22ox X50jL2ox X50jW2ox !38c X50mI2ox !38e X50k42ox X50i42ox X30jW2pROox X50i9 X50ol X50n& X50oU X50l2 X50rd X50jL X50nV X50jW X50p9 X50qs X50ks X50lw X50qd X50mI X50jh X50mj !3a3 X50nF X50pJ X50k4 X50nS X50n3 X50pa X50i4 X50jW2pR X50k42pR X30i92ox X30l22ox X30jL2ox X30jW2ox X30k42pROox X30i9 X30ol X30n& X30oU X30l2 X30rd X30jL X30nV X30jW X30p9 X30qs X30ks X30lw X30qd X30mI X30jh X30mj X30eAnF X30nF X30pJ X30k4 X30nS X30n3 X30pa X30i4 X30jW2pR X30k42pR X30mI2ox X30k42ox X30i42ox X5y15B XolB XnVB Xk42egB Xk42gtOegB Xk42huOegB XnSB XjhB Xy15B X0kny1C X30kny1C X0yHx X30yHx X0y0T X30y0T X0y1C X30y1C X0y1k X30y1k er50wD er30wD er50yRI er30yRI er50y18 er30y18 er50y0x er30y0x er50y0l er30y0l er50xa er30xa er50yPs er30yPs Xp9B XmjB XtbnFB X0y5V X5nVB Xtbl2B XhGtbl2B X50ss X30ss X5tbnFB X50y1l X30y1l Xmj2eWB X5hGtbnFB X5kZtbnFB X5hGkZtbnFB e150pW2iM e150yDq e150y6Q e150yDL e150yJ0pW e150vM e150yOQeI e1509 e150rx e150y7# e150vy e150yeq e150yUJ e150eI2iM e150iDe8 e150yQU e150K e150q6 e150ph e150p5 e150nz e150pW e150q5 e150oD e150eI e150iDeI e150eo e150nn e150p0 e150jK e150eD e150k9 e150qE e150sU e150lI e150e8 e150tK e150fQ e150r0 e150nZ e150i0 e150yHM e150tV1 e150t2 e150qz1 e150eG e150k# e150gB e130K e130q6 " ++
  "e130ph e130p5 e130nz e130pW e130q5 e130oD e130eI e130iDeI e130eo e130nn e130p0 e130jK e130eD e130k9 e130qE e130sU e130lI e130e8 e130tK e130fQ e130r0 e130nZ e130i0 e130yHM e130tV1 e130t2 e130qz1 e130eG e130k# e130gB e130pW2iM e130yDq e130y6Q e130yDL e130yJ0pW e130vM e130yOQeI e1309 e130rx e130y7# e130vy e130yeq e130yUJ e130eI2iM e130iDe8 e130yQU e150i4 e130i4 e150v0 e130v0 e150poeG e130poeG e150iHmC e130iHmC e150poiHmC e130poiHmC e150q7mC e130q7mC e150poq7mC e130poq7mC e150y7k e130y7k e150pa e130pa e150x0 e130x0 e150y12 e130y12 e150y122eBiMiS e130y122eBiMiS e150y2A e130y2A e150rWi4 e130rWi4 e150i42y58 e130i42y58 e150y8f e130y8f e150y1C e130y1C e1wU1 Ve1y58 Ve1#Bn Ve1hRyZv Ve1hmyZv Ve1#Em Ve1fUwU1 Ve1xK1 e150iDeI2j1 e130iDeI2j1 e150ybg1 e130ybg1 e150qE2tt e130qE2tt e150p52yJ2 e130p52yJ2 e150p52eW e130p52eW e150p52eaeg e130p52eaeg e150q52kq e130q52kq e150oD2kq e130oD2kq e150eo2kq e130eo2kq e150eo2eheW e130eo2eheW e150eo2eW e130eo2eW e150yNVeo e130yNVeo e150jK2kq e130jK2kq e15WjKp5 e13WjKp5 e150k92eaeg e130k92eaeg e150v2fQ e130v2fQ e150sU2kq e130sU2kq e150lI2kq e130lI2kq e150lRe8 e130lRe8 e150lRe82eW e130lRe82eW e150fQ2kq e130fQ2kq e15WlIr0 e13WlIr0 e150nZ2kq e130nZ2kq e150nZ2eheW e130nZ2eheW e150y9d e130y9d e150v2nZ e130v2nZ e150v2nZ2kq e130v2nZ2kq e10yZ3 e150q52jE e130q52jE e150eo2eg e130eo2eg e150nn2j1 e130nn2j1 e150jK2eg e130jK2eg e150jK2j1 e130jK2j1 e150yUAnZ e130yUAnZ e150p02j1 e130p02j1 e130yZ3 e150K2jE e130K2jE e150K2hu e130K2hu e15WKpW e13WKpW e150pW2jE e130pW2jE e150sr e130sr e150sr2hu e130sr2hu e150q52hu e130q52hu e150oD2hu e130oD2hu e150v2vM e130v2vM e150eI2iX e130eI2iX e150eI2hu e130eI2hu e150eD2hu e130eD2hu e150t8eD e130t8eD e150t8eD2hu e130t8eD2hu e150eG2hu e130eG2hu e150e82iX e130e82iX e150e82hu e130e82hu e150e82eBgt e130e82eBgt e150nZ2hu e130nZ2hu e150p52kq e130p52kq e150t22hu e130t22hu e150p52eWOeg e130p52eWOeg e150fQ2eg e130fQ2eg e150fQ2eW e130fQ2eW e150pqnz e130pqnz e150pqy6Q e130pqy6Q e150pqyg& e130pqyg& e150pqyQW e130pqyQW e150pqy7# e130pqy7# " ++
  "e150pqvy e130pqvy e150pqycQ e130pqycQ e150pqyeL e130pqyeL e150hGoD e130hGoD e150nn2eg e130nn2eg e150vh e130vh e150um e130um e150y5Q e130y5Q e150od e130od e150nL e130nL e150yMfeo e130yMfeo e150nn2eaeg e130nn2eaeg e150jK2eaeg e130jK2eaeg e150k92kq e130k92kq e150y9d2kq e130y9d2kq e150jK2deg e130jK2deg e150yQb e130yQb e150yPg e130yPg e150nn2kq e130nn2kq !531 gk50yB6 gk50yBK gk50yDK gk50gN gk50y0a gk50jt gk50tL gk50rF gk50eQ gk50q5 gk50yDm gk50yVJ gk50yJM gk50i3 gk50y17 gk50mt gk50hz gk50yS8 gk50yOp gk50sj gk509 gk50y8U gk50i0 gk50t# gk50ic gk50uh gk50yTg gk50fq gk50ybd gk50yJ7 gk50yeK gk50l7 gk50rm gk50yJY gk50yGP gk50yE9 gk50y4G gk50l3 !559 gkeL0df6ft gku2 gkyQwe2 gkn4e2 gki& gkmZe2 gkohe2 gk30fuyB6 gk30yB6 gk30yBK gk30yDK gk30gN gk30y0a gk30jt gk30tL gk30rF gk30eQ gk30q5 gk30yDm gk30yVJ gk30yJM gk30i3 gk30y17 gk30mt gk30hz gk30yS8 gk30yOp gk30sj gk309 gk30y8U gk30i0 gk30t# gk30ic gk30uh gk30yTg gk30fq gk30ybd gk30yJ7 gk30yeK gk30l7 gk30rm gk30yJY gk30yGP gk30yE9 gk30y4G gk30l3 gk3Wy0ayJY gk3092eW gkjgi1 gkrw !58d y9LgkyCk1 y7vgkyCk1 gkyQK1 !591 fbiSzUy fbiSyHF fbiS#TW fbiSyguyaG fbiSyguzZh fbiS#dS fbiS#JW fbiS#sU fbiS#Ca fbiS#qU fbiS#cH fbiSyDF fbiSyDF#0Q fbiSyS0 fbiS#GYyZ9 fbiSydwzaC fbiS#Cr fbiSyvrzd9 fbiS#0I fbiSzxw fbiSyWg fbiSyWgznn fbiSzLX fbiS#GT fbiSydw#Gc fbiS#qRyBK#r0 fbiS#Ab fbiSzkC fbiSzMK fbiS#tF fbe2zybfG fbm&#Tt fbm&yDTyHF fbm&yDTy8m fbm&yDTy92 fbm&ySs fbm&#fL fbm&yHF fbm&y8m fbm&y92 fbm&yDa fbm&yDazdce0y2D fbm&#H7 fbm&nagryEp fbm&zzW fbgSzyK fbm&y98 fbgS#CY fbm&lmeJ fbm&y9leJ fbgSycc#Ch fbe2fAeJ fbe2f3eJ fbgSj9zdA fbm&y92yaG !5d0 fb0fE fb0y0B fb0pn fb0y6E fb0ki fb0y2D fb0r5 fb0ySi fb0xq fb0u1 fb0eAjr fb0jr fb0y7s fb0eAot fb0ot fb0eAj9 fb0j9 fb0px fb0rg fb0eAk9 fb0k9 fb0eAyIr fb0yIr fb0yGo fb0rV fb0lm fb0yIJ !5ef fbu1g7 fbWyAheBy2D fbWyAhy2Du1 fbWyAheBu1 fbgSyDF fbgSyS0 !600 8T1 81#NB 8yRWvo 81ybN 81#N9 8Te2c lSyC6y4n lSy6wy4n 8yab lSy4TyWu1 lSy4ThUg31 ytB1 8i& 8yPenD 8#EjyJ61 81z&0 81ybQy2Q#nG 81y2Qyvb 81#IQy2Q 81y1fyttyuM 81#bE 83fckz 83fcWfE2h#2eq " ++
  "83fcq4 83qn 83sT 83qr 8sA 80e2 8m1eYute2 8j8eJgSe2 8mZe2 80yTzeq 80hf 80fE2sic 80fE2hfc 80kf2hfc 80fE2hfeH 80eq2hfc 80fE 80kK 80jey85 80je 80nj 80gQ 80fz 80iU 80on 80wQ 80l7 80q4 80jn 80kT 80lg 80lr 80kz 80r4 80kJ 80n6 80ry2eEfZc 80ry2ePfZeH 80qmeq2idgZ 80qmeq2eEfZc 80qmeq2ePfZc 8y20 80l3 80lP 80jr 80h# 80em 80iZ 80jw 80kf 80fEiQ 80eq 8w# 8y2s 8y3g 8qn 8sT 8qr 8qy 8wL 8yWIc 8hfc 8hfeH 8kyfE 8idsT 8e2iZy3I 8#tc 8G13gZc 8G1id3gZc 8G1eJeH 8hGsT 8qn2eEfZ 8s#hfeH lSEgx lSEe9 lSEeE lSEeP lSEec lSEej lSEfD lSEfO lSEfC lSEfW 8y4U1 8yCKnD 8wUnD 8ejlGj7 80oIkK 80oIlP 80mlfE 80fEyAX 80fE2s#hfc 80fE2s#hfeH 80fchf 80fchffE 80fchfkf 80e82hfc 80fchfeq 80y27 80y5D 80y2a 80je2ft 80je2ePfZcgE 80uh 80y53 80y2b 80fz2hfc 80fz2eEfZehc 80y4E 80y2z 80fz2ePfZc 80xm 80y52 80yCH 80on2ft 80on2eJeH 80on2eJeHO3kz 80yCC 80yCG 80yCa 80on2ePfZcgE 80on2ecfZc 80yH4 80l723gZ 80l72ft 80l72eJeH 80l723gZeH 80l72eJeHOeJc 80l72eEfZc 80yDy 80l72ecfZc 80jn2eJeHOeJc 80jn2ePfZeH 80jn2ePfZeHOePfZc 80lg2eEfZeH 80lg2ePfZc 80kz2ePfZc 80kJ2ePfZc 80oIl3 80l32eJz&seH 80l32eJeH 80y5K 80l32ePfZeH 80y4R 80lP2eJc 80lP2ePfZc 80ry 80y1#jr 80jr2ft 80jr2eJc 80oc 80jr2ePfZeH 80tS 80tS2ft 80y49 80tS2eEfZeH 80y3O 80tS2ePfZc 80h#23gZ 80h#2eJc 80h#2ePfZc 80h#2ePfZeH 80iZ2eJeH 80iZy3I 80y4l 80iZ2ft 80iZ2ePfZc 80jwy2w 80xm2eJc 80jw2eqc 80jwvU 80jwvU2hfc 80jey85vU 80kf2ft 80sdkS 80kS 80e8 80k# 80sdk# 80kf2eEfZc 80ph 80qmeq 80eq2j1 80eq23gZ 80kf2eJc 80eG 80eq2ePfZeH 80equ5 80equ52hfc 8jgi1 80lj 83fcWlg2h#2fEiQ 83fcWlP2h#2fEiQ 83fcemelF 83fch#fE 83fcgQ 83fcePfZ 83fcjn 8m1eYyNG 8y4yeYy9Qnnzew 83fcqVgx 83fc#iPyahgx 83fcoImgeYiU 83fcemeXF 83fVjn 83fcsi 83kf 83eq 83fceq 83fciZ 8xTeY#Mt 8qCiefVi1 8qCiefci1 8qVfci12zXJie 83fVem 80on2idgZ 80l72idgZ n#lSEgx n#lSEe9 n#lSEeE n#lSEeP n#lSEec n#lSEej n#lSEfD n#lSEfO n#lSEfC n#lSEfW 80kT2eJeH 80lr2eJeH 80n62eJeH 81ycGv5 81ycG#E&sj 80jw2idgZ h3m1eYy4O h3yI7jgi1 h3yI5jgi1 h3yI7lp h3yI5lp h3g4lp h3lpy9nd h3lpy9nb h3yI7lpy9nd h3yI5lpy9nb h3zIf h3yDS#AF h3yDSzzY h3yDSyvd !70f h3ohe2 h30yMd h30mlyMd " ++
  "h30pO h30yRn h30yRnyRq h30yPR h30oIyPRyG& h30ki h30kf h30q4 h30qG h30sy h30syyRq h30ygf h30ygfki h30pp h30zs9 h30y8D h30j9 h30ybi h30eAybi h30eG h30k9 h30hGk9 h30pw h30#GW h30yG& h30lm h30pe h30jdyNl h30jdzay h30jdzMo h3yGfc h3yGfeH h3yGfkZ h3yJic h3yJieH h3yJikZ h3yacc h3yaceH h3kZyh1g4 h3kZyh1yuJ h3ySdc h3ySdeH h3zdkkZ h3yR4c h3yR4eH h3#LY h3yRJeJ h3#HN h3#LG h3eEehfZc h3eEehfZeH h3ePfZc h3ePfZeH h3pZiNc h3pZiNeH h3y8I h3yz# !74d h30hJ#si h30hJyUC h30hJrt 80kK2ePfZzhLeH 80kK2eJeHOePfZc 80kK2ePfZhpgMeH 80kK2ePfZhpgMeHOeEfZc 80kK2eEfZeHOeJc 80kK2id3gZeH 80kK23gZ 80fz2eEfZc 80fz2ePfZhpgMeH 80on2eEfZwceHO3kz 80on2id3gZeH 80l72eW 80jn2ecfZc 80kJ2eEfZc 80kJ2ePfZhpgEc 80kJ2eEfZwcc 80l32eEfZeH 80l32ePfZhpgMeH 80ry2eJc 80ry2ePfZc 80ry2ePfZhpgMeH 80em2eJc 80em2eJeH 80iZ2eEfZeH 80iZ23kz 80iZ23gZ 80h#2fF 80l72eEfZwcc 80l72hfc 80jn2eEfZwcc 80fz2380kzeH 80fz2380kzOeEfZ 80jn2380kzOeEfZ 80l72380kzOeEfZ 80fz2380kzc 80fE2n#lSEeEc 80fE2n#lSEePc 80qmeq2n#lSEeEc 80qmeq2n#lSEePc 80qmeq2n#lSEeceH 80kf2n#lSEeEc 80kf2n#lSEePc 80equ52n#lSEeEc 80equ52n#lSEePc 80fz2n#lSEeceH 80jn2n#lSEecc 80jn2idgZ 80jr2eEfZc js0sZ js0#Td js0#69 js0y4g js0y5l js0zt1 js0zmv js0yto js0#k4 js0zzB js0zWT js0zMl js0y54 js0zrC js0zZf js0zbh js0#N# js0zLc js0#sW js0#bZ js0y2K js0#Co js0zlK js0z2r js0yew js0ySl js0yU8 js0#cJ js0ygr js0#Ti js0#Ml js0zL9 js0eQ js0sN js0ytW js0zax js0#GR js0#n2 jsysh jsyrD jszi& jszTu js#hk js#An jszTq jszVO js#AJ js#AB jswL js0y1N !7c0 ixEgx ixEe9 ixEeE ixEeP ixEec ixEej ixEfD ixEfO ixEfC ixEfW ix0K ix0ka ix0eI ix0eG ix0e8 ix0k2 ix0eD ix0zLG ix0fn ix0gu ix0fl ix0gC ix0hz ix0ic ix0gN ix0fq ix0oe ix0gG ix0yDC ix0kh ix0eo ix0g1 ix0g5yg5 ix0g0 ix0ih ix0g5 ix0fQ ix0i7 ix0gB ix0ihyg5 ix0yDzhz ix0yDzic ix0yDzfq ixViDfcfX ixViDfVfX ixViDqRfX ixVg2yCPfX ixVg2fcfX ixVg2fVfX ixVg2qRfX ixVyFMe2 ixVeBeJc ixfcfXu2 ixfVfXu2 ixBk2zMV ixBzZ& ixi& ixn4e2 ixzrU !7fd ixzLV ixzO81 ix#bH1 iz0ytf iz0yNs iz0zZm iz0zLO iz0yDv iz0y5l iz0y5X iz0yDu iz0yeI iz0yAk iz0yTr iz0zrG iz0y8D iz0j9 iz0#V8 iz0it iz0sV " ++
  "iz0#fI iz0#HA iz0yG& iz0kH iz0#a& ize2it ize2zkN ize2#AO ize2na izeL0yR0yAk ize2yR0yAk izG1g2eG izG1eG izG1yYxh5 izG1g2h5 izG1h5 izG1yYxK izG1g2K izG1K izeL0iDK izG1iDK izG1g2e8 izG1e8 izeL0eI izG1g2eI izG1eI izG1eD izG1wL ize2yXc !830 izgSyXc izgSytD izgSyuC izgSy#5 izgSyvq izgS#T& izohe2 izgSzzIyaI izgS#tI izgSyaI izgS#sL izgS#g6 izgSyv7 izgSycczya izgSyuT !840 mT0zdL mT0oF mT0y5a mT0wg mT0re mT0#ic mT0yNI mT0yDu mT0yvt mT0ytb mT0y03 mT0pL mT0t5 mT0lB mT0qf mT0it mT0yMu mT0yvk mT0y2V mT0yA& mT0jI mT0mn mT0zSe mT0zm& mT0kJ mTytAe2 mT#lqe2 mTy3Ge2 !85e mTgS !860 h30ffhv h30ffhz h30ffih h30ffjo h30ffkN h30ffy4C h30ffkP h30fffq h30ffmu h30ffy1H h30ffkx !870 80fE2oHqn 80fE2oHkBbqn 80fE2beaeW 80fE2deaeW 80fE2oHqr 80fE2oHlCbqr 80fE2oHrWeJc 80fE2oHbrWeJ 80fE2oHdrWeJ 80fE2oHrWeJeH 80fE2eJc 80fE2oHkBbqnOeJc 80fE2beaeWOeJc 80fE2oHlCbqrOeJc 80fE2oHkBbqnOdft 80fE2beaeWOdft 80fE2oHlCbqrOdft 80fE2oHbhf 80fE2oHdhf 8y202yYzhf 8y202yYzkf 8y202eEfZeH 80yA6eq 8yNUrWeJ 8lfrWeJ 80iZ2id3gZ 80fz2id3gZeH 80kz2eJeH 80kz2ePfZeH 80ry2eEfZwceH 8ehj1 !890 8y8#e2c 8#Dne2c !898 83fcnvytd 83fVnvzl1 83fVnvzkE 83fVnv#bU 8si#n1 8mlfEz&U 8y2ysi 8f6sifgsi 80kK23gZeH 80kK2hfc 80gQ2eEfZc 80kz2eEfZc 80l32eJeHOePfZc 80lP2eJeH 80h#2eBfF 80em2ePfZc 80eq2eEfZeHOhfc 80eq2eEfZeHOeJc 80l72mv 80kf2eJxy 80jmeq 80fVfE 80on2ePfZeH 80lg2ePfZeH 80tS2ideW 80lRkf 80q42idgZc 80kJ2ePfZeH 80jr2eJeH 80lP2eJeHOkufZc 80kK23emc 80uh23emc 80je23jec 80l723iZc 80eq2eEfZeHO3iZc 80y2Pl3 80y2PlP 80y2PiZ 80uh23gZ 80je23gZ 80y2723gZ 80xm23gZ 80ry23gZ 80n62ePfZc 80y2PlP2ePfZc 80gQ2ePfZc 80gQ2ePfZeH 80h#2380kzc 80zc0 83qmeq 83fcqmeq 83fcequ52eEfZeH 83fcnvybO 83fcr4 8gvrWeJc 8gvrWeJeH 8wLeH 8gvfGeH 8gvrWeJorfGeH 83fVkf 83fcnvyuw 83fclg 83fckJ 83fclP 83fciZ2qr 83fViZ2qr 83fcnvyvl 83fcnvyvQ 83fcnvyu7 83fcnv#Mz 83fcnv#Gw 83fcnv#nD 83fcyRWvo 83fc1ybN 8zNam1eYyNG 8fusTeH 8lKqn 8lKsT 8lKqr 8lKw# 8lKy2s 8lKy3g 8fXe9eJc 8fXeEfZc 8fXmvc 8fXe9eJeH 8fXeEfZeH 8fXmveH 8g9w# 8g9y2s 8g9y3g 83fckf 8qn2ft 8qn2eJc 8qr2eJeH 8dhtc 8bhtc 8dhteH 8bhteH " ++
  "8eBbhtc 8eBbhtc2eJ 8bhtc2eJ 8sT2eJ 8e2oviZy3I f41idlb f41lb f41ja f41l9 f40iDK f40K f40h5 f40eI f40hg f40e8 f40i2 f40fJew f40fJf7 f40q8eG f40iDeG f40eG f40hY f40q8eD f40iDeD f40eD f40hw f40eo f40if f40gR f40k7 f40hv f40i3 f40ic f40hz f40lN f40ih f40jo f40ke f40jp f40kp f40kN f40gC f40j2 f40gN f40k1 f40g5 f40y4C f40fl f40jS f40gu f40kP f40g0 f40gB f40fq f40oe f40g1 f40mu f40y1H f40jT f40i0 f40kx f40gG f40fQ f4G1kS f4G1yYn f41nR f41pj f4G1h5 f4G1eI f4G1hg f4G1e8 f4G1i2 f4G1fJew f4G1fJkw f4G1q8eG f4G1iDeG f4G1eG f4G1hY f4G1q8eD f4G1iDeD f4G1eD f4G1hw f41kk f4G1yGeeG f4G1yB4 f4rN f4y4z1yAQ f4y4z1y2T f4iMiS f4gtiS f4G1q8g2eG f4G1nu f4G1yJ3 f40od f40yUD f40yDI f40jt f40yPi f40um f40kh f40yAl f40fJkw f40fJlV f4G1fJf7 f4G1fJlV f4mF f4eBmF f4Egx f4Ee9 f4EeE f4EeP f4Eec f4Eej f4EfD f4EfO f4EfC f4EfW f4oh1 f41fcyHneJ f40q8K f40kS f40yYn f40yB4 f40nu f40yJ3 f40zyXjp f40oE f40eZgB f40y0n f40y3b f40lUi1 f40y6G f40wl glyAy gl1lb gl1ja gl1l9 !985 gl0K gl0h5 gl0eI gl0hg gl0e8 gl0i2 gl0fJew gl0fJf7 !98f gl0eG gl0hY !993 gl0eD gl0hw gl0eo gl0if gl0gR gl0k7 gl0hv gl0i3 gl0ic gl0hz gl0lN gl0ih gl0jo gl0ke gl0jp gl0kp gl0kN gl0gC gl0j2 gl0gN gl0k1 gl0g5 !9aa gl0fl gl0jS gl0gu gl0kP gl0g0 gl0gB gl0fq !9b2 gl0g1 !9b6 gl0i0 gl0kx gl0gG gl0fQ !9bc gl1nR gl1pj glG1h5 glG1eI glG1hg glG1e8 glG1i2 glG1fJew glG1fJkw !9c7 glG1eG glG1hY !9cb glG1eD glG1hw gl1kk gl0zoCgC !9d7 glhwqMe2 !9dc gl0oe gl0um !9df gl0yAl gl0fJkw gl0fJlV glG1fJf7 glG1fJlV !9e6 glEgx glEe9 glEeE glEeP glEec glEej glEfD glEfO glEfC glEfW gl0fq2eagJ gl0fq2f3gJ glw9e2 glw91 gltFy1Ue9 gltFy1UeE gltFy1UeP gltFy1Uec gltFy1Ue9zsuy22kUyPv gltFyPvtp glyTZ glzZpe2 gl0k5ja gloh1 glune2 !a01 he1yssyNp he1yNp he1l9 !a05 he0K he0h5 he0eI he0hg he0e8 he0i2 !a0f he0ka he0hY !a13 he0k2 he0hw he0eo he0if he0gR he0k7 he0hv he0i3 he0ic he0hz he0lN he0ih he0jo he0ke he0jp he0kp he0kN he0gC he0j2 he0gN he0k1 he0g5 !a2a he0fl he0jS he0gu he0kP he0g0 he0gB he0fq !a32 he0g1 he0mu !a35 he0jT he0i0 !a38 he0gG he0fQ !a3c he1nR !a3e heG1h5 heG1eI heG1hg " ++
  "heG1e8 heG1i2 !a47 heG1ka heG1hY !a4b heG1k2 heG1hw he1kk !a51 he1#hl !a59 he0yUD he0yDI he0jt he0oe !a5e he0kh !a66 heEgx heEe9 heEeE heEeP heEec heEej heEfD heEfO heEfC heEfW he#dT heyst hezkw he#iT hey0b#Al he1#q1 heoh1 !a81 gy1lb gy1ja gy1l9 !a85 gy0K gy0h5 gy0eI gy0hg gy0e8 gy0i2 gy0fJew gy0fJf7 gyGq8eG !a8f gy0eG gy0hY gyGq8eD !a93 gy0eD gy0hw gy0eo gy0if gy0gR gy0k7 gy0hv gy0i3 gy0ic gy0hz gy0lN gy0ih gy0jo gy0ke gy0jp gy0kp gy0kN gy0gC gy0j2 gy0gN gy0k1 gy0g5 !aaa gy0fl gy0jS gy0gu gy0kP gy0g0 gy0gB gy0fq !ab2 gy0g1 gy0mu !ab5 gy0jT gy0i0 gy0kx gy0gG gy0fQ !abc gy1nR gy1pj gyG1h5 gyG1eI gyG1hg gyG1e8 gyG1i2 gyG1fJew gyG1fJkw gyG1q8eG !ac7 gyG1eG gyG1hY gyG1q8eD !acb gyG1eD gyG1hw gy1kk !ad0 gyrN !ae0 gy0fJkw gy0fJlV gyG1fJf7 gyG1fJlV !ae6 gyEgx gyEe9 gyEeE gyEeP gyEec gyEej gyEfD gyEfO gyEfC gyEfW gyoh1 gyw91 !af9 gy0oE gy1wL gy1qy gy1yWI gy1#cknRc gy1fGnRc gy1yI#nRc !b01 h01lb h01ja h01l9 !b05 h00K h00h5 h00eI h00hg h00e8 h00i2 h00fJew h00fJf7 !b0f h00eG h00hY !b13 h00eD h00hw h00eo h00if h00gR h00k7 h00hv h00i3 h00ic h00hz h00lN h00ih h00jo h00ke h00jp h00kp h00kN h00gC h00j2 h00gN h00k1 h00g5 !b2a h00fl h00jS h00gu h00kP h00g0 h00gB h00fq !b32 h00g1 h00mu !b35 h00jT h00i0 h00kx h00gG h00fQ !b3c h01nR h01pj h0G1h5 h0G1eI h0G1hg h0G1e8 h0G1i2 h0G1fJew h0G1fJkw !b47 h0G1eG h0G1hY !b4b h0G1eD h0G1hw h01kk !b55 h01w0 h0hYqMe2 h0hwqMe2 !b5c h00oe h00um !b5f h00yAl h00fJkw h00fJlV h0G1fJf7 h0G1fJlV !b66 h0Egx h0Ee9 h0EeE h0EeP h0Eec h0Eej h0EfD h0EfO h0EfC h0EfW h0yTZ h00i7 h0gae9l6 h0gae9f6 h0gaePqQ h0gae9y1t h0gae9l1 h0gaePy9m !b82 fd1ja fd1l9 !b85 fd0K fd0h5 fd0eI fd0hg fd0e8 fd0i2 !b8e fd0eG fd0ka fd0hY !b92 fd0eD fd0k2 fd0hw fd0eo !b99 fd0hv fd0i3 !b9c fd0hz !b9e fd0ih fd0jo !ba3 fd0kN fd0gC !ba8 fd0g5 fd0y4C fd0fl !bae fd0g0 fd0gB fd0fq fd0oe fd0g1 fd0mu fd0y1H fd0jT fd0i0 fd0kx fd0gG fd0fQ !bbe fdG1h5 fdG1eI fdG1hg fdG1e8 fdG1i2 !bc6 fdG1eG fdG1ka fdG1hY !bca fdG1eD fdG1k2 fdG1hw fd1kk !bd0 fdrN !bd7 fdhwqMe2 !be6 fdEgx fdEe9 fdEeE fdEeP fdEec fdEej fdEfD " ++
  "fdEfO fdEfC fdEfW fdThU fdTe9fU fdTe9g3 fdls1 fdyF91 fdygQ1 fdzM91 fdyC21 fdqfc1 fdw91 fdT1 !c00 gW1Vlbc gW1lb gW1ja gW1l9 gW1Vjac gW0K gW0h5 gW0eI gW0hg gW0e8 gW0i2 gW0fJew gW0fJf7 !c0e gW0eG gW0ka gW0hY !c12 gW0eD gW0k2 gW0hw gW0eo gW0if gW0gR gW0k7 gW0hv gW0i3 gW0ic gW0hz gW0lN gW0ih gW0jo gW0ke gW0jp gW0kp gW0kN gW0gC gW0j2 gW0gN gW0k1 gW0g5 !c2a gW0fl gW0jS gW0gu gW0kP gW0g0 gW0gB gW0fq gW0oe gW0g1 gW0mu gW0y1H gW0jT gW0i0 gW0kx gW0gG gW0fQ !c3c gW1nR gW1pj gWG1h5 gWG1eI gWG1hg gWG1e8 gWG1i2 gWG1fJew gWG1fJkw !c46 gWG1eG gWG1ka gWG1hY !c4a gWG1eD gWG1k2 gWG1hw gW1kk !c55 gWqMe2 gWhYqMe2 !c58 gW0mM gW0rD gW0#Kq !c5d gW0yXNyZx !c60 gW0fJkw gW0fJlV gWG1fJf7 gWG1fJlV !c66 gWEgx gWEe9 gWEeE gWEeP gWEec gWEej gWEfD gWEfO gWEfC gWEfW !c77 gW1ge gWgaEgxe0xPxVeYec gWgaEe9e0xPxVeYec gWgaEeEe0xPxVeYec gWgaEePe0xPxVeYec gWgaEe9e0y0hxVeYec gWgaEeEe0y0hxVeYec gWgaEePe0y0hxVeYec gW1#gB h21yHnlb h21lb h21ja h21l9 h21ge h20K h20h5 h20eI h20hg h20e8 h20i2 h20fJew h20fJf7 !c8e h20eG h20ka h20hY !c92 h20eD h20k2 h20hw h20eo h20if h20gR h20k7 h20hv h20i3 h20ic h20hz h20lN h20ih h20jo h20ke h20jp h20kp h20kN h20gC h20j2 h20gN h20k1 h20g5 !caa h20fl h20jS h20gu h20kP h20g0 h20gB h20fq h20oe h20g1 h20mu !cb5 h20jT h20i0 h20kx h20gG h20fQ !cbc h21nR h21pj h2G1h5 h2G1eI h2G1hg h2G1e8 h2G1i2 h2G1fJew h2G1fJkw !cc6 h2G1eG h2G1ka h2G1hY !cca h2G1eD h2G1k2 h2G1hw h21kk !cd5 h2qMe2 h2hYqMe2 !cdd h20yXNyZx h20kh !ce0 h20fJkw h20fJlV h2G1fJf7 h2G1fJlV !ce6 h2Egx h2Ee9 h2EeE h2EeP h2Eec h2Eej h2EfD h2EfO h2EfC h2EfW !cf1 h21y14 h21y2B !d00 ff1Vjac ff1lb ff1ja ff1l9 ff0k5ja ff0K ff0h5 ff0eI ff0hg ff0e8 ff0i2 ff0fJew ff0fJf7 !d0e ff0eG ff0ka ff0hY !d12 ff0eD ff0k2 ff0hw ff0eo ff0if ff0gR ff0k7 ff0hv ff0i3 ff0ic ff0hz ff0lN ff0ih ff0jo ff0ke ff0jp ff0kp ff0kN ff0gC ff0j2 ff0gN ff0k1 ff0g5 ff0y4C ff0fl ff0jS ff0gu ff0kP ff0g0 ff0gB ff0fq ff0oe ff0g1 ff0mu ff0y1H ff0jT ff0i0 ff0kx ff0gG ff0fQ ff0ye& ff1ehfFkk ff1y2kkk ff1pj ffG1h5 ffG1eI ffG1hg ffG1e8 ffG1i2 ffG1fJew ffG1fJkw !d46 ffG1eG ffG1ka " ++
  "ffG1hY !d4a ffG1eD ffG1k2 ffG1hw ff1kk ff0eJ#JH ff1yZ9 !d54 ff0uBg8 ff0uBgw ff0uBzto ffhwqMe2 ffgae9yYk ffgae9yRY ffgaePyQp ffgae9yf5 ffgae9yIM ffgaePyf6 ffgae9yCv ff0knhg ff0fJkw ff0fJlV ffG1fJf7 ffG1fJlV !d66 ffEgx ffEe9 ffEeE ffEeP ffEec ffEej ffEfD ffEfO ffEfC ffEfW ffThU ffTe9fU ffTe9g3 ffgae9l6 ffgae9f6 ffgaePqQ ffgae9y1t ffgae9l1 ffgaePy9m ffyPee2 ff0uBy4B ff0uBfn ff0uBkw ff0uBf7 ff0uBlV ff0uBgV !d81 gA1lb gA1yud gA1#lj !d85 gA0ywF gA0yrM gA0yt9 gA0yt2 gA0zl9 gA0zk6 gA0#ip gA0#im gA0zkz gA0zky gA0zkD gA0zkB gA0zVN gA0zTy gA0ytZ gA0#BH gA0#Ar gA0yw7 !d9a gA0t4yT# gA0tcyT# gA0t4yDA gA0tcyDA gA0znByXL gA0y9UyDA gA0t4yOc gA0tcyOc gA0t4yDw gA0tcyDw gA0yIFyXL gA0yIF#NH#1g gA0y9UyDw gA0t4yex gA0tcyex gA0t4yCI gA0tcyCI gA0yFHyXT gA0y9UyCI gA0t4ydr gA0tcydr gA0t4yCF gA0tcyCF gA0yCDyXT !db3 gA0y9UyCF gA0t4yZF gA0tcyZF gA0t4yBG gA0tcyBG gA0zyo gA0yt&yBG gA0#qH gA0#Ij !dbd gA0yCDyU# !dc0 gA0#kL gA0yIFyHA gA0yFHyHA gA0yCDyHA gA0zdj gA0yFHyU# gA0zWv !dca gA1yte !dcf gAG1yAt gAG1yEAyMU gAG1wryMU gAG1yEAyTY gAG1wryTY gAG1yEAyY& !dd6 gAG1wryY& !dd8 gAG1yRl gAG1y3j gAG1wry3j gAG1zpazMM gAG1y3jsZyAt gAG1y3jsZwryAt gAG1y3jsZyDB gAG1yDB !de6 gAtaEgx gAtaEe9 gAtaEeE gAtaEeP gAtaEec gAtaEej gAtaEfD gAtaEfO gAtaEfC gAtaEfW !df2 gAG1wryRl gAG1wryDB gAgSzqF !e01 hFgonOy15 hFgorzyU9 hFgorzzoO hFgorzzoR hFgorzzoJ hFgorz#IW hFgoxO#42 hFgosRz2k hFgosRz3H hFgosRz2l hFgonGnG hFgosRz3T hFgol##ql hFgooVz2f hFgoeQ#Cj hFgooOy22 hFgooO#1m hFgooO#Dk hFgokuyFU hFgooVzML hFgoeQ#bM hFgooO#ct hFgooO#cK hFgooOye8 hFgokulw hFgorkyzk hFgopDy8v hFgosm#Dj hFgosYkh hFgosm#DX hFgosYyRG hFgosm#N8 hFgoo6g0 hFgol#yJQ hFgonC#LB hFgonq hFgooayVE hFgonA hFgonk#n4 hFgonG#M& hFgonG#LU hFgonGyI4 hFgomty0u hFgooaz3b hFgoeDr6 hFgomt#61 hFgo#Bm hFgoqxK hFgoo4zdQ hFgoqxh5 hFgoqxt5 hFgoqxeI hFgoqxhg hFgoqxnu hFgoqx#hq hFgoqxe8 hFgoqxi2 hFgo#Dd !e3f hFtFByzj hFgoqxeG hFgoqxlj hFgoqxeD hFgoqxhYzx& hFgoqxhYzx# hFgozs8 hFgozy2 hFgozy1 hFgoo4y0b hFgoo4oO hFgoo4#eV hFgoo4z2p hFgo#cO hFgo#4e hFgo#q4 hFgozXz hFEgx hFEe9 hFEeE " ++
  "hFEeP hFEec hFEej hFEfD hFEfO hFEfC hFEfW hFgoyuF hFgozoI !e81 hV0nO hV0rzy1z !e84 hV0rzxk !e86 hV0rQk7 hV0xO hV0rm hV0rQic hV0nGxk !e8c hV0rQlN hV0uf hV0rQih hV0rQjo hV0rQke hV0rQjp hV0rQkp hV0rQkN hV0oV hV0eQ hV0oOy1z hV0oOxk hV0rQk1 hV0ku hV0rk hV0pD hV0smy1z hV0sYxk hV0smxk hV0sYy1z hV0rQkP hV0o6 hV0l# hV0oayVE !ea5 hV0oayVO !ea7 hV0nk hV0ybUi0 hV0ybUkx hV0nGy1z hV0mty1z hV0rQmu hV0eD hV0mtxk hVvN hVG1K hVG1o4y16 hVG1h5 hVG1t5 hVG1eI hVG1hg hVG1gw hVG1yJc hVG1e8 hVG1i2 hV1rQkk hVG1o4yUQ hVybh1oa hVybh1uf !ec0 hVG1eG hVG1uI hVG1eD hVG1rf hVG1hY !ec6 hVnOg1 !ec8 hVfXo4y0b hVfXo4oO hVfXo4ow hVfXo4z1u hVy5ze2 hV#4Y !ed0 hVEgx hVEe9 hVEeE hVEeP hVEec hVEej hVEfD hVEfO hVEfC hVEfW !edc hVmtku hVmto6 hV0yUFqo hV0yUFuf !f00 ei4rN eie2y3NsLqN#fAK eie2y3NsLqNyJlyb6yNcg0 eie2y3NsLqNyJly3Nszg0 eie2elsLqNyWZg0 eie2y2lsLqNybmg0 eie2tBsLqNyZYpyg0 eie2sLqNszpyg0 eie2#NXpy eie2z0FsLqN eie2y&WybysLqN eie2zkmsz eie2y6Jszz0G eie2py eie2y8Zpy eie2szpy eie2y8Zszpy eie2#K8z2&#Wqpy eie2yasySHpy eie2tByJkrXleg2qi eie2y3Nsz eiyVM1z2erX eiyVM1zt0rX eiu31#TPza6yhDrX eiu31yhEfl eiu31#Nn#fP ei1tjy2vyRx ei1tjy2vySD ei1tjy2vyDP ei1tjy42yRx ei1tjy42ySD ei1tjy2vtjy42 eiEgx eiEe9 eiEeE eiEeP eiEec eiEej eiEfD eiEfO eiEfC eiEfW eiEf6e9 eiEf6eE eiEf6eP eiEf6ec eiEf6ej eiEf6fD eiEf6fO eiEf6fC eiEf6fW eiEf6gx eie2z0DrX eie2yXfyORqvyh0 eie2tByJkrXyBXyWsqi eie2yXfyOR#TOrX eie2nZqN eie2mMyhF eie2ySOrXySX eie2ySOrXySW eie2r6yUBySX eie2r6yUBySW ei1ygMyer ei1yWQyer ei0eo ei0if ei0gR ei0k7 ei0hv ei0i3 ei0ic ei0hz !f49 ei0ih ei0jo ei0ke ei0jp ei0kp ei0kN ei0gC ei0j2 ei0gN ei0k1 ei0g5 ei0fl ei0jS ei0gu ei0kP ei0g0 ei0mM ei0qZ ei0rD ei0y2# ei0i7 ei0oE ei0jt ei0x& ei0gB ei0fq ei0g1 ei0i0 ei0kx ei0gG ei0fQ ei0K ei0y3n ei0y6pfq ei0yEF ei0oe !f71 eiG1h5 eiG1eI eiG1hg eiG1e8 eiG1i2 eiG1fJew eiG1fJkw eiG1fJf7 eiG1fJlV eiG1eG eiG1ka eiG1eD eiG1k2 ei1#KHoAhvnC ei1yb6yNc eiG1hGeI eiG1hGhg ei1qvyh0y1NgN ei1#VuzsW eie2yDR eie2#Bu ei1zsTrX ei1sKrX ei1yU&mMqi ei1y88qi ei1ySMqiyau ei1ySMzz8yau ei1idy88qi eihO1yU&mMqi " ++
  "eihO1y88qi eihO1idy88qi eihO0eo eihO0if eihO0gR eihO0k7 eihO0hv eihO0i3 eihO0ic eihO0hz !f99 eihO0ih eihO0jo eihO0ke eihO0jp eihO0kp eihO0kN eihO0gC eihO0j2 eihO0gN eihO0k1 eihO0g5 eihO0fl eihO0jS eihO0gu eihO0kP eihO0g0 eihO0mM eihO0qZ eihO0rD eihO0y2# eihO0i7 eihO0oE eihO0jt eihO0x& eihO0gB eihO0fq eihO0g1 eihO0i0 eihO0kx eihO0gG eihO0fQ eihO0K eihO0y3n eihO0y6pi7 eihO0y6pgB eihO0y6pfq !fbe eio2nqif eio2nqifyBXyWsqi eiy5#1eZyNf eiy5#1fIyNf eiy5#1z1b#bm eiy5#1#NYyhC eiBzSIn2 eiByadyb5 eiB#Bgza7 eiByadyb5yasySH eiByZYfl eiBqtn2 eiBqtn2y8ZyAr eiBqtn2yDPyAr eiBqtn2yBXyAr !fce ei1tjy42tjy2v ei1tjy42yDP eie2z0EybyncqNyat eie2z&4sLncqNyat eie2y8Zsz eie2elyOGyb7sLqNyWZg0 eie2y2lyOGyb7sLqNybmg0 y9LyA21 y7vyA21 y9LyA212fZ y7vyA212fZ eie2zsYyWYrX eie2#eLyWYrX !1000 eb0eo eb0if eb0gR eb0k7 eb0hv eb0i3 eb0ic eb0hz eb0lN eb0ih eb0#5w eb0jo eb0ke eb0jp eb0kp eb0kN eb0gC eb0j2 eb0gN eb0k1 eb0g5 eb0fl eb0jS eb0gu eb0kP eb0g0 eb0gB eb0fq eb0g1 eb0i7 eb0gG eb0fQ eb0mu eb0K eb0kHK eb0eI eb0hg eb0e8 eb0i2 eb0eG eb0rKeG eb0eD eb0hw ebG1y1&h5 ebG1h5 ebG1eI ebG1hg ebG1e8 ebG1i2 ebG1eG ebG1hY ebG1rKhg ebG1rKeD ebG1eGc eb1ja eb1eJeH eb1l9 eb1kk eb1yvT ebh91gbgB ebh91gbfq ebh91gbi7 ebh91gbfQ eb0y0qgG ebEgx ebEe9 ebEeE ebEeP ebEec ebEej ebEfD ebEfO ebEfC ebEfW eb1iHl8 eb1l8 ebBztv ebBz6L ebBytC ebBzaK eb0i0 eb0kx eb0fJew eb0fJkw eb0fJf7 eb0fJlV ebG1fJew ebG1fJkw ebG1fJf7 ebG1fJlV eb0rKhv eb0rKlN eb0rKwl eb0rKy2Z ebh91rKgbg5 ebh91rKgbg0 ebh91rKgbg1 eb0y9apAi0 ebG1y9apAuM ebfXe2y9apAzde ebfXe2y9apAoKsm eb0u0qwpAj2 eb0u0qwpAy4c ebG1u0qwpAuM ebG1u0qwpAnu eb1u0qwpAy59 eb1u0qwpAtu eb1u0qwpAuw eb1u0qwpAxt eb1u0qwpAtv eb0y6YqwpAkN eb0y6YqwpAyJa eb0y6YqwpAzbF ebG1za9pAeI ebG1jkkS ebG1jke8 ebG1jkka eb0kHeo eb0kHif eb0kHgR eb0kHi3 eb0kHjt eb0kHih eb0kHgN eb0kHg5 eb0kHjS eb0kHkh eb0kHgu eb0kHj2 eb0kHfQ ebh91kHgbi7 ebG1kHh5 ebG1kHeG ebG1kHeGc ebG1kHeAgw eb1kHtu eb1kHuw eb1kHtv eb1kHyAC eb1kHyB&tu eb1kHyB&uw eb1kHyB&zUKfX eb0ybGy8ikh eb1ybGy8itv ebkHEgx ebkHEe9 ebkHEeE ebkHEeP ebkHEec ebkHEej ebkHEfD " ++
  "ebkHEfO ebkHEfC ebkHEfW eb1nNy59 eb1nNuw ebG1y02K ebG1y02hY ebBkHe9 ebBkHn4 e#50lB e#50y5o e#50x3 e#50y6S e#50jK e#50yAW e#50y5X e#50yA4 e#50it e#50y16 e#50y7t e#50o5 e#50y43 e#50ia e#50y8k e#50yAo e#50y1g e#50y1l e#50xl e#50uy e#50y8r e#50y7a e#50y70 e#50y4d e#50lm e#50y64 e#50qi e#50y3a e#50y68 e#50y61 e#50yAd e#50y7T e#50y77 e#50ki e#50y3R e#50nL e#50y0t e#50y7E !10c7 e#50y2M !10cd e#50y00 !10d0 e#0lB e#0y5o e#0x3 e#0y6S e#0jK e#0yAW e#0y5X e#0yA4 e#0it e#0y16 e#0y7t e#0o5 e#0y43 e#0ia e#0y8k e#0yAo e#0y1g e#0y1l e#0xl e#0uy e#0y8r e#0y7a e#0y70 e#0y4d e#0lm e#0y64 e#0qi e#0y3a e#0y68 e#0y61 e#0yAd e#0y7T e#0y77 e#0ki e#0y3R e#0nL e#0y0t e#0y7E e#0sV e#0y2M e#0yQs e#0fux3 e#0kJ e#y4OnD eL0e#y43 e#0y00 e#0tV1 e#0yUj1 Sfjvf Sfjy9x Sfjvv SfjwV Sfjy9# Sfjw8 Sfjvq Sfjw5 Sfjy9y SfjwF Sfjy9z SfjuW SfjuC Sfjy9w SfjvD Sfjve SfjwR Sfjw3 SfjvY SfjyXv SfjyHr SfjyFd Sfj#4U SfjyeC Sfjyaz Sfjycv Sfjy9G SfjyTx SfjyF2 SfjyE2 SfjyZe Sfj#Dx SfjyGN Sfjy8t SfjyZg SfjyGM Sfj#D& Sfj#E1 Sfj#D# SfjyGL SfjyZc SfjyZh SfjyZf SfjyE4 SfjyTy SfjyHY SfjycL SfjyHa SfjycM SfjycK SfjyHZ Sfj#VH Sfj#VI Sfj#VC SfjyHX SfjycI Sfj#VE SfjycN Sfj#VG SfjycJ Sfjz3O Sfjz3Q Sfjz2V Sfjz2X SfjyG6 SfjyTK Sfjzk1 Sfjzjv Sfjzjy Sfjzj# Sfjzjw SfjyHq Sfjzjs Sfjzjr Sfjzk0 Sfjzjx SfjyJV Sfjz3v Sfjz3N Sfjz3P Sfjz2U Sfjz2W Sfjz3C Sfjz3B Sfjz3M Sfjz2T SfjyZV SfjyE3 Sfjycu SfjyJU Sfjzp7 SfjyFc Sfjy8Q Sfjy8R SfjyeE SfjuN SgquN SgqK Sgqlj SgqgB Sgqy5Q Sgqy31 SgqeG SgqyJT Sgqq3 SgqeD Sgqi7 SgqyJ9 SgqkS Sgql# Sgqe8 SgqyJD SgqnL SgqoC Sgqk# SgquM Sgq9 SgqeI SgqyhK SgqyhL Sgq#pk SgqygG SgqzUb SgqzUc SgqzUa Sgq#qO Sgq#qP Sgq#8u Sgq#8t Sgq#8# Sgq#8v Sgq#8x SgqygX SgqygY Sgq#qz Sgq#qy SgqygW Sgq#gq Sgq#gr Sgq#gs Sgq#gv Sgq#gu Sgq#rG Sgq#rJ Sgq#rI Sgqyge Sgqygd Sgq#rL Sgqygc SgqzV2 SgqzV0 Sgq#qe SgqziS Sgqzia SgqziX SgqziZ SgqziV SgqziT SgqyM& Sgqyuz Sgqyu& Sgqyu# Sgq#Wy SgqyhJ Sgq#pl Sgq#qQ Sgq#8y Sgq#8z SfYvf SfYy9x SfYyEE SfYvv SfYy8Q SfYy8R SfYwV SfYw8 SfYy9H SfYy9I SfYy9J SfYy9K SfYyGy SfYyGx SfYy9G SfYvq SfYw5 SfYy8t SfYwF " ++
  "SfYy9z SfYuW SfYuC SfYvD SfYve SfYwR SfYw3 SfYvY SfYzp5 SfYzp6 SfYyXv SfYyFd SfYyFc SfYyXw SfY#4W SfYyeC SfYyeE SfYyay SfYyaz SfYyGz SfY#Jz SfYycv SfY#Jr SfY#Js SfYya& SfY#Jt SfYyaw SfY#Jx SfYya# SfYyax SfYyb1 SfYyWq SfYz#c SfYyF2 SfYyF3 SfYz#e SfYyWr SfYz#X SfYz#Z SfYyE2 SfY#Dy SfYyZf SfYyZd SfYyE4 SfYyHY SfYyHa SfYycM SfYyHZ SfYyG6 SfYyTK SfYzj& SfYyHq SfYzju SfYyJV SfYygS SfYygR SfYyZV SfYyE3 SfYzel SfYzen SfYzek SfYzem SfYyJU SfYzp3 SfYzp4 SfYzp0 SfYzp2 SfYzp1 SfYyHr Y4fQ Y4qp Y4lE Y4sZ Y4y7C Y4ki Y4mt Y4zgO Y4g1 Y4nA Y4ij Y4y3o Y4y7u Y4jx Y4oa Y4yEi Y4uU Y4zeN Y4zeL Y4ySl Y4zeK Y4zeJ Y4zeM Y4ySm Y4g0 Y4ks Y4mH Y4yEk Y4yEy Y4le Y4o6 Y4y8J Y4#a2 Y4#a8 Y4#a6 Y4#a3 Y4#a5 Y4#a4 Y4#a7 Y4#a9 Y4fq Y4nq Y4pu Y4y4g Y4y4i Y4pE Y4nC Y4ybH Y4gG Y4oA Y4nr Y4y9T Y4xX Y4o8 Y4nG Y4yIB Y4i0 Y4qX Y4y1p Y4ybo Y4y9c Y4kI Y4ss Y4yHU Y4od Y4y4f Y4y4e Y4yGm Y4#Gb Y4y93 Y4y94 Y4#G& Y4#HR !124a Y4yaS Y4#HS Y4yaR Y4yaQ !1250 Y4#Ge Y4#Gm Y4#Gj Y4#Gf Y4#Gi Y4#Gh Y4#Gk !1258 Y4#Gn !125a Y4#Gr Y4#Go Y4#Gq Y4#Gp !1260 Y4gu Y4n2 Y4om Y4y5l Y4y09 Y4q6 Y4rk Y4yON Y4jT Y4xx Y4u# Y4yfb Y4wb Y4ph Y4t# Y4#mE Y4gC Y4nW Y4ow Y4xh Y4y21 Y4lI Y4eQ Y4yIx Y4i3 Y4yC5 Y4y67 Y4yBY Y4yOh Y4u8 Y4rm Y4yC9 Y4qc Y4#pA Y4qd Y4#on Y4#or Y4y2J Y4ygC Y4#p3 Y4#pE !128a Y4#pI Y4#pF Y4#pH Y4#pG !1290 Y4g5 Y4lw Y4lX Y4y1N Y4yFT Y4lW Y4ku Y4y8X Y4ih Y4yFt Y4qv Y4yYS Y4yYT Y4yFr Y4uf Y4#8L Y4lUK Y4lUe8 Y4lUeI Y4lUh5 Y4lUka Y4lUeG Y4lUeD Y4lUi7 Y4eo Y4o2 Y4ne Y4y7W Y4yE8 Y4oK Y4nO Y4zpR Y4yEM !12b2 Y4y7p Y4y7n Y4yUe Y4y7o !12b8 Y4yEN Y4zqk Y4zqi Y4zqf Y4zqh Y4zqg Y4zqj !12c0 Y4zql !12c2 Y4zqp Y4zqm Y4zqo Y4zqn !12c8 Y4i7 Y4t1 Y4oC Y4y5L Y4yAY Y4nL Y4nk Y4#o2 Y4w2K Y4w2e8 Y4w2eI Y4w2h5 Y4w2ka Y4w2eG Y4w2eD !12d8 Y4jt Y4sO Y4t3 Y4ygr Y4y5W Y4oD Y4sN Y4#tb Y4oE Y4yJh Y4yJe Y4#sh Y4yAp Y4q5 Y4yJg Y4#t2 Y4gB Y4k# Y49 Y4y2K Y4y2L Y4q3 Y4l# Y4#q& Y4gN Y4op Y4oo Y4yPP Y4y0R Y4nz Y4oV Y4zSp Y4jp Y4yPn Y4yPm Y4yPh Y4zLk Y4yPj Y4yCJ Y4zM6 Y4hz Y4xB Y4vc Y4yTc Y4y13 Y4rx Y4sb Y4yTq Y4gR Y4pS Y4nc Y4y3E Y4y3F Y4tT Y4qo Y4zbi Y4ySS !1312 " ++
  "Y4ySV Y4zcZ Y4ySU Y4yST !1318 Y4y0n Y4yS5 Y4yS2 Y4zaT Y4zaX Y4yDH Y4yS3 Y4zar Y4j2 Y4yIV Y4xr Y4y54 Y4y55 Y4kU Y4oO Y4yIX Y4ic Y4y66 Y4n3 Y4yOm Y4y63 Y4nZ Y4sR Y4z3k Y4jS Y4#Di Y4nS Y4yZU Y4#DY Y4yGJ Y4sm Y4#Dl Y4mM Y4yAK Y4xv Y4#fH Y4yep Y4r0 Y4yAJ Y4#fT Y4#gc Y4#gk Y4#gg Y4#gd Y4#gf Y4#ge Y4#gi Y4#gj Y4kh Y4uQ Y4sV Y4y6m Y4w& Y4rt Y4sY Y4yRh Y4fl Y4rU Y4jh Y4y8h Y4ug Y4k9 Y4pD Y4y4c Y4#Lf Y4y1M Y4zYa !135d YVy3GOGqMe2 YVGqMe2 YVy3Ge2 Yl8e2 Y#o9 Yjgi1 Yi& YsA Ylp Y#FHlp YmZe2 Yy4OnD YEe9 YEeE YEeP YEec YEej YEfD YEfO YEfC YEfW YThU YTj& YTmL YTmq YTlT YTpc YTlh YTqB YTl5 YTfU YThUg3 !1380 Y4y9Xy8J Y4y8K Y4yXE Y4yFJ Y4y9XyON Y4yOP Y4yOO Y4z0i Y4y9XyRh Y4yRk Y4yRj Y4zYY Y4y9Xy4c Y4y91 Y4yaB Y4yGl Yq&e2#qo Yq&e2zMb Yq&e2yb2 Yq&e2iDyb2 Yq&e2zNB Yq&e2znr Yq&e2z3K Yq&e2zei Yq&e2zMc Yq&e2zqP !13a0 e&0K e&0eG e&0eI e&0eD e&0e8 e&0gZ e&0gR e&0eo e&0tT e&0nc e&0qo e&0pS e&0ySR e&0fQ e&0ki e&0lE e&0mt e&0qp e&0y7H e&0g1 e&0jx e&0ij e&0oa e&0nA e&0yVT e&0g0 e&0le e&0mH e&0o6 e&0ks e&0g5 e&0yDZ e&0yFL e&0lW e&0lX e&0ku e&0lw e&0yFp e&0yaK e&0yaL e&0yaM e&0yGq e&0yGr e&0yaP e&0gG e&0ex e&0o8 e&0nr e&0nG e&0oA e&0yIA e&0gN e&0gC e&0nz e&0lI e&0oo e&0ow e&0oV e&0op e&0yQR e&0y6R e&0yIc e&0yId e&0yIf e&0yIg e&0yIh e&0yeP e&0mM e&0r0 e&0xv e&0yAJ e&0yAK e&0yeu e&0i7 e&0nL e&0oC e&0nk e&0t1 e&0ygB e&0gB e&0q3 e&09 e&0l# e&0k# e&0ygk e&0y40 !13f8 e&30q3 e&309 e&30l# e&30k# e&30ygk e&30y40 !1400 IJrw IJeG IJyMK IJeI IJhg IJeD IJk2 IJsJk2 IJetka IJeteI IJK IJh5 IJnL IJh4nL IJoC IJh4oC IJyg1 IJh4yg1 IJnk IJh4nk IJy5P IJh4y5P IJqOy5P IJi7 IJh4i7 IJy5L IJh4y5L IJqOy5L IJhY IJsJhc IJlUi1 IJeAgt IJeAiM IJeAlCf6ft IJeAkBf6ft IJeAbf6ft IJeAft IJeAeBgt IJeAeBiDehyI2 IJeAeaeJ IJeAiDg4eW IJeAeu IJeAfBla IJjK IJit IJia IJlB IJk9 IJ#BY IJjh IJy4V IJpD IJy4a IJsJy4a IJety7C IJetlE IJfl IJy8h IJyGl IJh4yGl IJy91 IJh4y91 IJyaC IJh4yaC IJqw IJh4qw IJyaD IJh4yaD IJy4c IJh4y4c IJyGk IJh4yGk IJsJyGk IJhI IJh4hI IJetgi IJlI IJ#b0 IJow IJ#dF IJeQ IJy25 IJsJy25 IJety0R IJetoo IJgC IJxh IJy5G IJh4y5G IJyfB " ++
  "IJh4yfB IJyfC IJh4yfC IJeE IJh4eE IJyfE IJh4yfE IJyIx IJh4yIx IJyIy IJh4yIy IJqOyIy IJgT IJy5C IJye# IJyIv IJjo IJoK IJzmw IJne IJzok IJnO IJy3k IJsJy3k IJeo IJy7W IJy7o IJh4y7o IJy7p IJh4y7p IJyUf IJh4yUf IJyUg IJh4yUg IJyUh IJh4yUh IJyEM IJh4yEM IJy7n IJh4y7n IJqOy7n IJgV IJyEL IJy9ryE9 IJy9rzoj IJy9rzpW IJy9ryTv IJu8 IJz1H IJy67 IJz3z IJrm IJyB# IJsJyB# IJi3 IJyBY IJyPH IJh4yPH IJyCB IJh4yCB IJyPI IJh4yPI IJyPJ IJh4yPJ IJyPK IJh4yPK IJyC9 IJh4yC9 IJyCA IJh4yCA IJqOyCA IJhB IJpbwO IJle IJzxe IJmH IJz#h IJo6 IJyFA IJsJyFA IJg0 IJyEk IJyFJ IJh4yFJ IJy8K IJh4y8K IJyXF IJh4yXF IJyXG IJh4yXG IJyXH IJh4yXH IJy8J IJh4y8J IJyFI IJh4yFI IJqOyFI IJg8 IJh4g8 IJz#J IJyNAg8 IJpbg8 IJlW IJ#1f IJlX IJyXx IJku IJyFj IJsJyFj IJg5 IJy1N IJyYM IJh4yYM IJy8X IJh4y8X IJyFq IJh4yFq IJqOyFq IJfn IJetoc IJ#4D IJjx IJzrB IJij IJztK IJoa IJy1I IJsJy1I IJg1 IJy3o IJyVV IJh4yVV IJyVW IJh4yVW IJyVX IJh4yVX IJyVY IJh4yVY IJyVZ IJh4yVZ IJyEi IJh4yEi IJyVU IJh4yVU IJf7 IJh4f7 IJgbf7 IJo8 IJ#Mm IJnr IJy4u IJnG IJy4x IJsJy4x IJgG IJy9T IJydH IJh4ydH IJydJ IJh4ydJ IJydK IJh4ydK IJydL IJh4ydL IJydM IJh4ydM IJyIB IJh4yIB IJyIC IJh4yIC IJqOyIC IJex IJyNAex IJydF IJo#ex IJz&g#VW IJqO#Vc IJqO#Lm IJqO#Wr IJqO#YR IJqO#Vd IJqO#Nl IJkI IJy1p IJy9e IJss IJyHR IJi0 IJybo IJxc IJh4xc IJyc5 IJh4yc5 IJyc6 IJh4yc6 IJyc7 IJh4yc7 IJyc8 IJh4yc8 IJyHU IJh4yHU IJyc4 IJh4yc4 IJxY IJq3 IJ#pn IJ9 IJ#qk IJl# IJyAi IJsJyAi IJgB IJy2K IJygl IJh4ygl IJygm IJh4ygm IJygn IJh4ygn IJygo IJh4ygo IJygp IJh4ygp IJyJa IJh4yJa IJyJb IJh4yJb IJqOyJb IJgw IJy&4gw IJh4gw IJpb9 IJpE IJyaTpE IJh4jx IJ#II IJpu IJy9P IJnC IJybB IJh4oa IJfq IJy4g IJh4g1 IJybI IJh4ybI IJew IJh4ew IJgbew IJrt IJzWU IJsV IJzXI IJsY IJyD2 IJkh IJy6m IJyRi IJh4yRi IJiB IJkU IJyFKkU IJxr IJyFKxr IJyIP IJyFKyIP IJoO IJyIS IJj2 IJy54 IJyIY IJh4yIY IJwO IJyey IJyez IJyAL IJke IJ#fX IJ#gU IJ#gV IJ#gW IJ#gS IJvzki IJvzlE IJvzySp IJvzmt IJvzy3S IJvzfQ IJvzsZ IJvzgi IJ#7jgi IJzex IJ#GS IJy4e IJyaH IJy94 IJyGp IJod IJyGm IJj6 IJyeM IJyeN IJyeO IJyIe IJh4pE IJh4pu IJh4nC " ++
  "IJh4fq IJ#3C IJy8P IJ#3l IJxO IJ#3# IJhv IJy8O IJoc IJ#5n IJpbkI IJpby1p IJpbss IJpbi0 IJrckU IJrcxr IJrcoO IJrcj2 IJrcwO IJyVA IJzt4 IJyVB IJzt5 IJvh IJyV9 IJyEa IJwPkU IJwPxr IJwPyIP IJwPoO IJwPyIS IJwPj2 IJwPy54 IJwPwO IJytYeM IJo#eG IJo#eI IJo#eD IJo#K IJo#nL IJo#oC IJo#nk IJo#i7 IJo#lW IJo#lX IJo#ku IJo#g5 IJo#oK IJo#ne IJo#nO IJo#eo IJpbki IJpblE IJpbmt IJpbfQ IJetzbE IJetySA IJetp5 IJetzb1 IJetzbA IJetk7 IJetnq IJetnC IJetpE IJety4i IJetpu IJetfq IJett1 IJetnk IJetnL IJetyAY IJetoC IJeti7 IJetzhs IJetzhr IJetyDe IJetzhp IJetzhq IJetzhn IJetyIV IJetoO IJetkU IJety55 IJetxr IJetj2 IJet#fj IJetyIv IJety5C IJet#fW IJetye# IJetjo IJetrU IJetpD IJetk9 IJetug IJetjh IJetfl IJethI IJetpS IJetqo IJettT IJety3F IJetnc IJetgR IJetzoN IJetrz IJetyEB IJetzoE IJety7b IJetif IJetzpC IJetzpB IJetzp8 IJetzp9 IJetzpA IJetyEF IJety7e IJetlw IJetku IJetlW IJetyFT IJetlX IJetg5 IJetks IJeto6 IJetle IJetyEy IJetmH IJetg0 IJetk# IJetl# IJetq3 IJety2L IJet9 IJetgB IJetxB IJpbxB IJetsb IJetrx IJety13 IJetvc IJpbvc IJethz IJetyTl IJetyTk IJetzlh IJetzli IJetyTi IJety3b IJetnA IJetoa IJetjx IJety7u IJetij IJetg1 IJetzNx IJetzNw IJetzNr IJetzNs IJetzNv IJety6R IJetzt6 IJetyVB IJetzt2 IJetzt3 IJetyVA IJetvh IJet#de IJetyeO IJetyeM IJet#dc IJetyeN IJetyIe IJetyIh IJetyIg IJetyId IJet#db IJetyIf IJetyIc IJetsO IJetsN IJetoD IJety5W IJett3 IJetjt IJetgs IJetelgs IJetyQY IJetyQX IJetvM IJetyQT IJetyQV IJetrD IJetoA IJetnG IJeto8 IJetxX IJetnr IJetgG IJetqX IJetss IJetkI IJety9c IJety1p IJeti0 IJetxY IJetyAK IJetyAJ IJetr0 IJetyep IJetxv IJetmM IJety66 IJetsR IJetnZ IJety63 IJetn3 IJetic IJet#fh IJet#fg IJet#fd IJet#fe IJet#ff IJet#fc IJn31 IJjgi1 IJyaF IJ#3E IJ#5q IJ#5r IJ#5s IJ#5t IJ#5o IJ#5p IJrc#cx IJrc#cy IJrc#cz IJrc#c# IJrc#c& IJrcyIX IJrcyIY IJrceAwO IJo#hc mVo9e2 mV0y#n mV0zuQ mV0zWy mV0#Mr mV0#4j mV0#hi mV0zLN mV0#dR mV0z68 mV0z2N mV0#0A mV0zbx mV0#3L mV0#X& mV0#LF mV0ytU mV0yYm mV0uz mV0zTm mV0zkr mV0zTl mV0gr mV0#hx mV0zk4 mV0zTn mV0#D3 mVy6ne2 mVhGy6ne2 !16a0 h60zX0zX3rtiB h60gZ " ++
  "h60#iZuze8 h60ygb h60gw h60hc h60#cu#cvwT h60vP h60yuWK h60yYteD h60y5YK h60yMY h60zu4eD h60#UBeD h60eD h60kS h60ia h60#ITy97#J6ew h60znS h60z2R h60znRgV h60gP h60rr h60zaAzchgP h60mP h60#oRyAchc h60zdCgi h60zd8gi h60zu2gi h60#U8gi h60#1t#7z#1sfn h60#UAfn h60zSA h60zk&y10zl3eI h60eG h60zlQhh h60zaN h60zu1lj h60#U6K h60zl7zUd h60#DH#DChI h60ytnzUe h60#WKex h60#V3zu5ex h60#UCex h60hB h60gs h60#dYxs#gbgT h60#UDgT h60gg h60y#uy#sy&VeM h60#U7eM h60zSB h60#Au h60zT&tLeG h60zyCo5g8 h60zu3g8 h60#U9g8 h60zsPzrQztyf7 h60zS9 h60zkb h60yDl h60zLFzLBgg h60#B5zUxeD h60ww h60zkt h60zJY h60z1S h60z2I h60#Xc h60zu6 h60#UE h60zj0 h60j6 h60hK h6hagS h6rLgS h6jfgS h6yv9B h6#gEB h6y#oB h60gV h60xY h60k2 h60y3Cy2gyYt h60y3Cy2gy10 h60y3Cy2gtL h60y3Cy2gy5Y h60y3Cy2gyMY !1700 nt0K nt0eI nt0e8 nt0eo nt0gR nt0hv nt0gC nt0gN nt0g5 nt0fl nt0gu nt0g0 nt0gB nt0fq nt0g1 nt0i7 nt0gG nt0fQ ntG1eI ntG1e8 nt1kk nt1yZ6 !171f nt0knfq oJ0K oJ0eI oJ0e8 oJ0eo oJ0gR oJ0hv oJ0gC oJ0gN oJ0g5 oJ0fl oJ0gu oJ0g0 oJ0gB oJ0fq oJ0g1 oJ0i7 oJ0gG oJ0fQ oJG1eI oJG1e8 oJ1yZ6 yZWhagS yZWeBgS !1740 oR0K oR0eI oR0e8 oR0eo oR0gR oR0hv oR0gC oR0gN oR0g5 oR0fl oR0gu oR0g0 oR0gB oR0fq oR0g1 oR0i7 oR0gG oR0fQ oRG1eI oRG1e8 !1760 pI0K pI0eI pI0e8 pI0eo pI0gR pI0hv pI0gC pI0gN pI0g5 pI0fl pI0gu pI0g0 pI0gB !176e pI0g1 pI0i7 pI0gG !1772 pIG1eI pIG1e8 !1780 fK0eo fK0if fK0nO fK0rz fK0xO fK0i3 fK0ic fK0rm fK0sR fK0uf fK0gN fK0ke fK0oV fK0yAL fK0#5v fK0gC fK0j2 fK0eQ fK0oO fK0ku fK0gu fK0jS fK0pD fK0sm fK0o6 fK0l# fK0nC fK0oa fK0t# fK0i0 fK0yHt fK0gG fK0fQ fK0g1 fK0od fKndG#GX fKndGyGm fKndGy4e fKndGyaH fKndGy4f fKndG#HG fKndGyGr fKndG#HP fKndGybJ fKndG#Ll fKndGyEj fKndGzum fKndGy93 fKndGyaF fKndGyGpyAOe9 fKndGyGpyAOeE fKndG#GZ fKGyTRy2V fKGyTRh5 fKG1h5 fKG1eI fKG1hg fKG1gw fKG1yJc fKG1e8 fKG1i2 fKG1y29 fKG1kS fKG1gB fKG1pW fKG1eG fKG1lj fKG1hY fKG1k2 fKG1hw fK1#4d fK1#Iq fK1#rZ fK1#0Z fK1#ea fK1yzu fK1#KT fK1#dq fK1zn5 fK1ytQ fK1#NA#NF fK1#li fK1z65 fK1y#4 fK1zoB fK1yzy fK1z1Vy4VzqU fK1shy25 fK1y#w fK1#DeyXA fK1zpc fKtFB#Jn fK1yw8 " ++
  "fK1yvw !17e0 fKEgx fKEe9 fKEeE fKEeP fKEec fKEej fKEfD fKEfO fKEfC fKEfW !17f0 fKBsht7#WA fKBsht7yFG fKBsht7y4V fKBsht7yBJ fKBsht7yBV fKBsht7yGY fKBsht7yGb fKBsht7yGc fKBsht7yGZ fKBsht7yGa !1800 f1qg f1vN f1i& f1jgi1 f1lp f1ecfZ f1mbqzrw f1ns4y&rvo f1oLi& f1oLjgi1 f1#4l f1y3DeRy4qe9 f1y3DeRy4qeE f1y3DeRy4qeP f1GnD f1y3DeRy4qec f1Egx f1Ee9 f1EeE f1EeP f1Eec f1Eej f1EfD f1EfO f1EfC f1EfW !1820 f10K f10eG f10eI f10eD f10e8 f10kS f10nu f10ka f10g5 f10r6 f10gu f10fl f10od f10gR f10g0 f10g1 f10gG f10i0 f10gC f10gN f10ic f10hz f10gB f10fq f10i7 f10kh f10eo f10if f10mM f10jt f10sZ f10#tQ f10vh f10yJe f10n3 f10mbg2G1 f10mbeG f10mbeI f10mbeD f10mbe8 f10mbkS f10mbnu f10mbr6 f10mbgu f10mbfl f10mbod f10mbgR f10mbg0 f10mbgC f10mbgN f10mbic f10mbhz f10mbmM f10mbgB f10mbi7 f10mbeo f10mby3E f10mbsZ f10mbzlY f10mb#4Q f10mbrD f10nseG f10nseI f10nsyDv f10nsnu f10nse8 f10nsr6 f10nseo f10nsgR f10nsfQ f10nsfl f10nsi0 f10nsgC f10nsgN f10nshz f10nskh f10nsy3E f10nssZ f10nsmM f10nsjt f10nsy4g f10nsic f10nsoE f10oLeI f10oLeo f10oLfq f10oLkh f10oLoE f10ic2eEfZ !1880 f10kVkWjae9 f10kVkWl9e9 f10kVkWzLR f10kVkWyfM f10kVkWidyfM f10kVkWyNT f10kVkWePyNT f10kVkWK f10kVkWeI f10kVkWeo f10kVkWhv f10kVkWi3 f10kVkWjo f10kVkWke f10kVkWjp f10kVkWkN f10kVkWgC f10kVkWgN f10kVkWfl f10kVkWjS f10kVkWkx f10kVkWoE f10kVkWjt f10kVkWre f10mbkVkWgC f10mbkVkWoE f10oLkVkWk7 f10oLkVkWhv f10oLkVkWi3 f10oLkVkWlN f10oLkVkWjo f10oLkVkWkp f10oLkVkWgC f10oLkVkWk1 f10oLkVkWkx f10oLkVkWyPM f10oLkVkWoE f10oLkVkWjt f10kVkWf6e8 f10kVkWf6gB f10oLkVkWkP f10kVkWzLE f10oLkVkWvh !18b0 IJyG4 IJrf IJyMM IJy5N IJ#F9 IJ#Cq IJ#GD IJ#bd IJyE7 IJzqa IJyWT IJ#6J IJ#1y IJzsR IJ#WM IJybY IJyb& IJ#Tf IJ#Uj IJ#r8 IJygO IJyab IJyYN IJs6yYN IJyYO IJs6yYO IJyYP IJs6yYP IJyYQ IJs6yYQ IJ#La IJ#Lb IJ#Lc IJ#Ld IJ#Le IJybH IJs6hI IJs6gT IJs6gV IJs6hB IJs6g8 IJs6fn IJs6ex IJs6xY IJy6Yhc IJu0hc IJeA3ft IJeAlfeJ IJyaT#LZ IJh4y1I IJh4y3o IJ#cw IJyIX IJ#fb IJ#fZ IJyIu IJ#df IJ#dd IJpbxc IJpbyHR IJpby3S IJetzca IJetyCMy3F IJety3E IJetySS IJpbzmP IJetyTq " ++
  "IJyBHyCMf7 IJyBHyCMew IJetyCNex !1900 iW#m30 iW0eo iW0if iW0gR iW0k7 iW0hv iW0i3 iW0ic iW0hz iW0lN iW0ygJ iW0gC iW0j2 iW0gN iW0k1 iW0g5 iW0fl iW0jS iW0gu iW0kP iW0g0 iW0gB iW0fq iW0g1 iW0i7 iW0i0 iW0kx iW0gG iW0fQ iW0zce iW0yIl !1920 iWG1K iWG1eI iWG1e8 iWG1ka iWG1hY iWG1k2 iWG1hw iWG1eG iWG1eD iWhO0gB iWhO0fq iWhO0i7 !1930 iW30eo iW30hv iW30ja iW30gC iW30g5 iW30fl iW30g0 iW30fq iW30g1 iW1#0D iW1znq iW1#Mk !1940 iW1y1I !1944 iWn4e2 iWmZe2 iWEgx iWEe9 iWEeE iWEeP iWEec iWEej iWEfD iWEfO iWEfC iWEfW eCjx0eo eCjx0qc eCjx0hv eCjx0mM eCjx0gG eCjx0gB eCjx0gC eCjx0j2 eCjx0g1 eCjx0fl eCjx0jS eCjx0g0 eCjx0kh eCjx0jT eCjx0fQ eCjx0od eCjx0if eCjx0qZ eCjx0g5 eCjx0K eCjx0eI eCjx0ka eCjx0tL eCjx0e8 eCjx0k2 eCjx0eD eCjx0nu eCjx0eG eCjx0yNC eCjx0hY !1970 eCjx0tu eCjx0uw eCjx0xt eCjx0tv eCjx0yAC !1980 hDeChM0fcod hDeChM0fVod hDeChM0fceo hDeChM0fcqc hDeChM0fchv hDeChM0fVeo hDeChM0fVqc hDeChM0fVhv hDeChM0fcmM hDeChM0fcgG hDeChM0fcgB hDeChM0fVmM hDeChM0fVgG hDeChM0fVgB hDeChM0fcgC hDeChM0fcj2 hDeChM0fcg5 hDeChM0fVgC hDeChM0fVj2 hDeChM0fVg5 hDeChM0fcfl hDeChM0fcjS hDeChM0fcg0 hDeChM0fVfl hDeChM0fVjS hDeChM0fVg0 hDeChM0fckh hDeChM0fcjT hDeChM0fcg1 hDeChM0fVkh hDeChM0fVjT hDeChM0fVg1 hDeChM0fcfQ hDeChM0fcgN hDeChM0fcgu hDeChM0fVfQ hDeChM0fVgN hDeChM0fVgu hDeChM0fcyUd hDeChM0fcygD hDeChM0fVyUd hDeChM0fVygD hDeChM0fcyI4 hDeChM0fVyI4 !19b0 hDeChMG1G#UG hDeChMG1h5 hDeChMG1hg hDeChMG1e8 hDeChMG1i2 hDeChMG1eG hDeChMG1lj hDeChMG1eD hDeChMG1y4F hDeChMG1nu hDeChMG1rf hDeChMG1yMM hDeChMG1yfZ hDeChMG1yG4 hDeChMG1yYZ hDeChMG1#hu hDeChMG1yDv hDeChM0eAgZ hDeChM0eAoc hDeChM0eAfn hDeChM0eAg8 hDeChM0eAgV hDeChM0eAgg hDeChM0eAeM hDeChMfXy3u hDeChMfXy3v !19d0 hDeChMEgx hDeChMEe9 hDeChMEeE hDeChMEeP hDeChMEec hDeChMEej hDeChMEfD hDeChMEfO hDeChMEfC hDeChMEfW hDeChMfSEe9 !19de hDeChM1yUl hDeChM1zrP fKB#Cl fKByFGqJ fKBy4VqJ fKByBJqJ fKByBVqJ fKByGYqJ fKByGbqJ fKByGcqJ fKByGZqJ fKByGaqJ fKByCEqJ fKByPWqJ fKByPXqJ fKByPUqJ fKByPVqJ fKByPYqJ fKB#g9 fKByFGqS fKBy4VqS fKByBJqS fKByBVqS fKByGYqS fKByGbqS fKByGcqS " ++
  "fKByGZqS fKByGaqS fKByCEqS fKByPWqS fKByPXqS fKByPUqS fKByPVqS fKByPYqS mE0eo mE0gR mE0hv mE0yXo mE0fl mE0gu mE0g0 mE0yX8 mE0gC mE0gN mE0g5 mE0yFk mE0i3 mE0hz mE0ih mE0#7y mE0gB mE0fq mE0g1 mE0jT mE0gG mE0K mE0fQ mEG1eI mEG1e8 mEG1eG mEG1eD mEG1lj !1a1e mE#Bs mEm1eYl8 eCfS0fceo eCfS0fcif eCfS0fcyEN eCfS0fVeo eCfS0fVyEN eCfS0fVif eCfS0hv eCfS0fci3 eCfS0fcic eCfS0fVi3 eCfS0fVgG eCfS0fVic eCfS0ih eCfS0#Ie eCfS0fcyGu eCfS0gN eCfS0fVyGu eCfS0yaa eCfS0fcgC eCfS0fcj2 eCfS0fVgC eCfS0fVj2 eCfS0g5 eCfS0gu eCfS0fcfl eCfS0fcjS eCfS0fckh eCfS0fVfl eCfS0fVkh eCfS0fVjS eCfS0g0 eCfS0fVgB eCfS0fcgB eCfS0fq eCfS0#LD eCfS0g1 eCfS0hM eCfS0i7 eCfS0fci0 eCfS0fckx eCfS0fcgG eCfS0fcfQ eCfS0mu eCfS0K eCfS0fVfQ eCfS0eI eCfS0hg eCfS0e8 eCfS0i2 eCfS0ka eCfS0k2 eCfS0yUl eCfS0y0qgG eCfSh91gbfq eCfSh91gbg1 eCfSh91g1#bKy7r eCfS1o4y7Xy7r eCfSh91eAhv eCfSh91fVfl eCfSh91fcyGugrfVfl eCfSh91g0 eCfSh91gu eCfSh91gG !1a60 eCfS1#My eCfSG1K eCfSG1o4yH8 eCfSG1h5 eCfSG1y1&h5 eCfSG1eI eCfSG1hg eCfSG1nu eCfSG1yJ3 eCfSG1e8 eCfSG1i2 eCfSG1eD eCfSG1y4FeH eCfSG1yG4 eCfSG1eG eCfSG1lj eCfSG1k2 eCfSG1hY eCfSG1fShY eCfSG1y4Fc eCfS1o4y7X eCfS1y59 eCfS1tu eCfS1yECuw eCfS1yECxt eCfS1yECtv eCfS1fqzd5 eCfS1o4yH7 eCfS1zoQznG !1a7f eCfSVuGeJ eCfStWEgx eCfStWEe9 eCfStWEeE eCfStWEeP eCfStWEec eCfStWEej eCfStWEfD eCfStWEfO eCfStWEfC eCfStWEfW !1a90 eCfSfSEgx eCfSfSEe9 eCfSfSEeE eCfSfSEeP eCfSfSEec eCfSfSEej eCfSfSEfD eCfSfSEfO eCfSfSEfC eCfSfSEfW !1aa0 eCfS1#nl eCfS1#nm eCfS1#NT eCfS1zns eCfS1zhP eCfS1zO2 eCfS1hGipyaa eCfS1o4#q5 eCfS1zmx eCfS1zmy eCfS1#NM eCfS1#NN eCfS1zdV eCfS1z1I !1ab0 Vy2yhZiS VzN3 Vy0# VgER Vj8eJ V#oaeH Vy2IiNeH Vg9e2eH VeBg9e2eH VfIy60eWeH Vyd2y60eWeH Vy8lc VeBy8lc Vy8leH Vy8lnp V730hceH V730fuhceH VdkFcd VbkFcb VdkFeHd VbkFeHb Ve3y&zc VT1c VideByN0c Veu1c VeBeu1c VeBeu1eH Vj8gtiS V730oXgP V730oXew V730oXgT !1b00 fk1yAS#Jl fk1yASq8 fk1z2J fk1ydE fk1y&M fk0yMb fk0yMbsD fk0yTO fk0yTOsD fk0yfP fk0yfPsD fk0fqy1h fk0fqy1hsD fk0g1y7w fk0g1y7wsD fk0zU5 fk0ytT fk0yYe fk0yYesD fk0eo fk0eovn fk0gR fk0gRzbt fk0hv " ++
  "fk0i3 fk0i3zrK fk0hz fk0hzzlP fk0ih fk0gCzsL fk0gCs2vn fk0gNs2ytv fk0gNs2vn fk0g5#IX fk0gC fk0gC#ba fk0gN fk0gNzxj fk0g5 fk0fl fk0flznC fk0gu fk0guznp fk0g0 fk0gB fk0fq fk0g1 fk0i7 fk0gG#Mo fk0gG#NI fk0gG fk0fQ fk1#JK fkG1sD fkG1yAS fkG1yASybW fkG1y9& fkG1y9&zkA fkG1fqy1h fkG1fqy1hsD fkG1g1y7w fkG1g1y7wsD fkG1y51 fkG1y51y1h fkG1y51sD fkG1y51y1hsD fkG1yGF fkG1yGFsD fky2Oy2O fk0jrwA fk0zoLwA fk0#ghwA fk0tKwA fk0phwA fk0yAmwA fk0yvjwA fk0knyTo !1b50 fkEgx fkEe9 fkEeE fkEeP fkEec fkEej fkEfD fkEfO fkEfC fkEfW fkyZ8 fkyZ4 fkyg3 fkyBc#B# fkyBc#V4 fkyBc#CS fk#Bw fkZByQE fkZBzMU fkZByQQ fkZBy6F fkZBy6FydE fkZBzNQ fkZBzLC fkZBzMg fkZBzLM fkZBy6FzaB fkZBV#bx fkZBVzUP fkZBVyU2 fkZBVyU1 fkZBVyDx fkZBVyU22yDx fkZBVyU12yDx fkZBVy#q fkZBVzbp fkZBy9Mg9lc fkZBy9Mg9mp fkZBy9MkQyf1 fkZBy9MkQ#bB fkZBy3qg9#C4 fkZBy3qg9#Fu fkZBy3qkQ#EN fkZBy3qkQ#EX fkZBy3qg9yGO fkyZ8yUu fkyZ4yUu !1b80 iE1#CI iE1#C8 iE1#CB iE0K iE0eI iE0e8 iE0lj iE0eD iE0eG iE0uM iE0eo iE0od iE0gR iE0hv iE0i3 iE0hz iE0jt iE0ih iE0gC iE0gN iE0g5 iE0fl iE0kh iE0jT iE0gu iE0g0 iE0gB iE0fq iE0g1 iE0i7 iE0gG iE0qc iE0fQ iEh91#By iEh91#CG iEh91#CJ iEG1#C5 iEG1#CK iEG1#B& iEG1#CC iEG1#Bx iEG1#C3 iE1#Bv iE1kk iEh91yZDg0 iEh91yZDi7 iE0if iE0#ZM iEEgx iEEe9 iEEeE iEEeP iEEec iEEej iEEfD iEEfO iEEfC iEEfW iEpj iE0#JU iE0yV7 iE0kP iE0eAgV iE0eAg8 jJ0K jJ0stK jJ0fQ jJ0stfQ jJ0yEofQ jJ0gu jJ0yE5gu jJ0fl jJ0stfl jJ0g5 jJ0yEog5 jJ0i7 jJ0sti7 jJ0yZ2i7 jJ0gR jJ0stgR jJ0hz jJ0gN jJ0fq jJ0stfq jJ0g0 jJ0stg0 jJ0ycigC jJ0yY7gC jJ0gG jJ0stgG jJ0yEogG jJ0gB jJ0stgB jJ0hv jJ0g1 jJ0stg1 jJ0ih jJ0i3 jJ0y1Q jJ0y3w jJ0eI jJ0e8 jJ1#dw jJG1eG jJG1yZ2eG jJG1ka jJG1eI jJG1yE5eI jJG1eD jJG1yE5eD jJG1e8 jJG1e8e0stgG jJh91oc jJh91gi jJyZ7 jJ#CD !1bfc jJBr8g5zzX jJBr8#E7 jJBr8zmA jJBr8yZ7 h&0eo h&0zpE h&0if h&0gR h&0zba h&0hv h&0i3 h&0ic h&0hz h&0ih h&0gC h&0j2 h&0gN h&0g5 h&0fl h&0y8v h&0jS h&0kh h&0zXb h&0gu h&0y&X h&0g0 h&0yWw h&0mM h&0qZ h&0rD h&0gB h&0fq h&0g1 h&0fQ h&0ySv h&0jT h&0gG h&0i0 h&0i7 h&0K h&hO0gB h&hO0fq h&G1h5 h&G1eI h&G1eD h&G1k2 h&G1e8 " ++
  "h&G1i2 h&G1eG h&h91gV h&h91g8 h&h91f7 h&h91fn h&h91hI h&h91ew h&h91gT h&h91#84 h&h91y7X h&1#IY h&1nR !1c3b h&gSydj h&gSyFs#d0ydj h&gSyOk h&gSyesyOk h&gSyes h&Egx h&Ee9 h&EeE h&EeP h&Eec h&Eej h&EfD h&EfO h&EfC h&EfW !1c4d h&0jo h&0ke h&0jp j#k0Egx j#k0Ee9 j#k0EeE j#k0EeP j#k0Eec j#k0Eej j#k0EfD j#k0EfO j#k0EfC j#k0EfW j#k00g1 j#k00mn j#k00y5a j#k00r6 j#k00pL j#k00y3o j#k00yrF j#k00yrE j#k00yrG j#k00yrL j#k00ij j#k00y10 j#k00yDi j#k00zkp j#k00y3Y j#k00nA j#k00yAP j#k00mm j#k00yfU j#k00yfZ j#k00jx j#k00y6g j#k00zTr j#k00jK j#k00y6h j#k00oa j#k00#B9 j#k00#AD j#k00yYw j#k00y4G j#k0ks#fk j#k0zZgyf0 j#k0#05yf0 j#k0#J8 j#k0#DU j#k0ytL j#k0gSyXB j#k0gSeByXB e130qVph e130zu7nz e130y1PeD e130sIsU e130y1&lI e130#cnlI e130y1&tV1 e130y1&v0 e130#i8y2A !1c90 e#kE50lB e#kE50y5o e#kE50x3 e#kE50y6S e#kE50jK e#kE50yAW e#kE50y5X e#kE50yA4 e#kE50it e#kE50y16 e#kE50y7t e#kE50o5 e#kE50y43 e#kE50ia e#kE50y8k e#kE50yAo e#kE50y1g e#kE50y1l e#kE50xl e#kE50uy e#kE50y8r e#kE50y7a e#kE50y70 e#kE50y4d e#kE50lm e#kE50y64 e#kE50qi e#kE50y3a e#kE50y68 e#kE50y61 e#kE50yAd e#kE50y7T e#kE50y77 e#kE50ki e#kE50y3R e#kE50nL e#kE50y0t e#kE50y7E e#kE50sV e#kE50y2M e#kE50yQs e#kE50fux3 e#kE50kJ !1cbd e#kE50y00 e#kE50tV1 e#kE50yUj1 iEgSr8#Z5 iEgSr8#C9 iEgSr8#G1 iEgSr8yOT iEgSr8yV7y9V iEgSr8eoy9V iEgSr8gNy9V iEgSr8guy9V !1cd0 k5fXznL k5fX#Ta k5fX#FI k51#4b k51y5RyWotq k5fXy5RytIndtq k5fXy5Rndtq k5fXy5RyE6ndtq k5fXq8eH k5fXy5RyE6ndtq#Nd k5fXeBtq k5fXj8tq k5fXyE6y2T k5fXeJeH k5fXeEfZeH k5fXePfZeH k5fX#K5yTzndtq k5fXyvmndtq k51l9tq k51l9yAQ k51hGl9yAQ k51l9y2T k51hGl9y2T k51l9yAQ2j1 k51l9y2T2j1 k51jayMq k51jayzi k51jayfc k51jayfc2j1 k51#dW k51zeHg2ja k51g2ja k51#L4g2ja k51ja#hj#0B k51yN1 k51ipyN1 k5fXq8c k51y14 k51y2B k51yvo k5fXftc k5fXeBftc k51eBjayMq !1d00 7035K 7035lj 730fulj 7035t8eM 7035hB 7035gg 7035vP 7035eG 730fug9eG 730fueI 7035hh 7035gV 7035f72eW 7035g8 7035hGfn 7035eD 7035g9eD 730oveD 730ovg9eD 730oveD2eW 730fukS 7035v& 730kBf6eD 730lCf6eD 7035hI 7035hGew 7035fuew 7035gT 7035e8 730ove8 730ovzN4e8 " ++
  "730ovfug8 7035gZ 7035hc 7035gs 7035rs 70t&zsI#Wd 70kJ X035n& X035qs X035jh X035mj X035pa e1035nn eL05K eL05lj eL05eM eL05t8eM eL05gg eL05eG eL05hGeG eL05gP eL05gi eL05eI eL05hh eL05gV eL05f7 eL05g8 eL05fn eL05hGfn eL05eD eL05v& eL05hI eL05ew eL05gT eL05e8 eL05hc eL03K eL03fuK eL03i9 eL03fulj eL03eM eL03gg eL03eG eL03sr eL03g9eG eL03fug9eG eL03gP eL03fueI eL03gV eL03g8 eL03rr eL03eD eL03g9eD eL03kBf6eD eL03lCf6eD eL03hI eL03gT eL03e8 eL03ove8 eL03fug8 eL03gZ eL03kJ eL03ol eL03Xn& eL03oU eL03XnS eL03n3 7ky30eI 7ky30ew 7ky30e8 7ky30gZ Xky30ol Xky30n& Xky30mj Xky30nS Xky30n3 730nu 730eM2eagH 730gg2eagH 730iB2eagH 730g82eagH 730fn2eagH 730hI2eagH 730ew2eagH 730ew2vSOeagH 730ex2eagH 730gT2eagH 730gs2eagH 730fugP eL0e1jK 730oXgP 730wO2#YB 7350eI2eW 730jW2eW 730hI2eW 7350e82eW 730k42eW 730eM2mWeg 730gg2mWeg 730iB2mWeg 730gP2mWeg 730gV2mWeg 730f72mWeg 730g82mWeg 730fn2mWeg 730hI2mWeg 730ew2mWeg 730ex2mWeg 730oq2mWeg 730gZ2mWeg 730hK2mWeg 730gs2mWeg 730K2kdeg 730i92kdeg 730gg2egOj1 730eG2kdeg 730g9eG2kdeg 730hGg9eG2kdeg 730sr2kdeg 730eI2kdeg 730g9eD2kdeg 730oq2kdeg 730e82kdeg 730rs2kdeg eL03fui9 eL03hB eL03hB2ny eL03vP eL03hGg9eG eL03iB eL03oIhh2eW eL03frgP eL03fugi eL03eI2eW eL03jW eL035eI eL035eI2eW eL03hh2uF eL03f72kdeg eL03f72mWeg eL035f7 eL03g82eg eL03fug82g2oZ eL03fn2deg eL03fn2kdeg eL035fn eL03t8eD eL03nS eL03ex2eg eL03oq eL03gT2mWeg eL03e8fF eL03k4 eL035e8 eL03gZ2eg eL03fugZ eL03gs eL03gs2kdeg eL03gs2ny eL03rs eL03nV VkZiMiS VkZgtiS Vy9qeH VyI9e2 Vzxg Vzc7 Vzxi Vysr Vzc6 Vysq V730eweH Vz04 Vzxh VeBhZc VqPc VsMeH Vy10eH Vuzc VyAUc V730y39g9Kc V730lj V730y5e V730y06 V730hBmN V730oXgg V730vP V730gP V7035gP V730gV V730f7 V7035f7 V7035g8 V730fn V7035fn V7035ew V730ewy4o V730ex V730g2ex V730gs V730i9 V730eM V730ol V730sr V730iB V730f72eBeagH V730eD2fIy60eW V730hI V730oq V730e82fIy60eW V730hc V730K2hu V730eD2hu V730e82hu Vevlac VuZcb VuZcd VeJcd VsIidy0FeH VeJeHd VzMNe2 VeBidjEeH VpifyeQeH Vdhtc VbhtOfBhteH 750K2fteH 730K2fteH 750eM2eJc 730eM2eJc 750eM2eJeH 730eM2eJeH " ++
  "750eM2iNeH 730eM2iNeH 750hB2mNOgt 730hB2mNOgt 750gg2eJc 730gg2eJc 750gg2eJeH 730gg2eJeH 750gg2iNeH 730gg2iNeH 750gg2mN 730gg2mN 750gg2hZeH 730gg2hZeH 750eG2iXOiM 730eG2iXOiM 750eG2iXOgt 730eG2iXOgt 750eG2hZeH 730eG2hZeH 750eG2gHeH 730eG2gHeH 750eG2mNOjE 730eG2mNOjE 750iB2eJc 730iB2eJc 750gP2iX 730gP2iX 750gi2eJc 730gi2eJc 750gi2eJeH 730gi2eJeH 750gi2hu 730gi2hu 750gi2mN 730gi2mN 750gi2jEeH 730gi2jEeH 750eI2gHeH 730eI2gHeH 750eI2huOgt 730eI2huOgt 750gV2gt 730gV2gt 750gV2eJeH 730gV2eJeH 750gV2iNeH 730gV2iNeH 750f72eJeH 730f72eJeH 750f72eJeHOiX 730f72eJeHOiX 750f72iNeH 730f72iNeH 750f72hZeH 730f72hZeH 750g82gt 730g82gt 750g82eJc 730g82eJc 750g82eJeH 730g82eJeH 750fn2eJc 730fn2eJc 750fn2eJeH 730fn2eJeH 750fn2iNeH 730fn2iNeH 750fn2hZeH 730fn2hZeH 750eD2gHOgt 730eD2gHOgt 750eD2gHOhu 730eD2gHOhu 750eD2iXOiM 730eD2iXOiM 750eD2iXOgt 730eD2iXOgt 750hI2gt 730hI2gt 750hI2eJc 730hI2eJc 750ew2eJc 730ew2eJc 750ew2eJeH 730ew2eJeH 750ew2eJeHOiX 730ew2eJeHOiX 750ew2iNeH 730ew2iNeH 750ex2eJc 730ex2eJc 750ex2eJeH 730ex2eJeH 750ex2gtOeJc 730ex2gtOeJc 750ex2kLOeJc 730ex2kLOeJc 750ex2eJeHOeJc 730ex2eJeHOeJc 750gT2eJc 730gT2eJc 750gT2eJeH 730gT2eJeH 750gT2iNeH 730gT2iNeH 750gT2hZeH 730gT2hZeH 750e82hueH 730e82hueH 750e82gHeH 730e82gHeH 750e82hZeH 730e82hZeH 750e82gHOgt 730e82gHOgt 750e82iXOhu 730e82iXOhu 750gZ2gH 730gZ2gH 750gZ2eJeH 730gZ2eJeH 750hc2iM 730hc2iM 750hc2gt 730hc2gt 750hc2hu 730hc2hu 750hc2eJc 730hc2eJc 750hc2eJeH 730hc2eJeH 750hK2eJc 730hK2eJc 750hK2hu 730hK2hu 750gw2eJc 730gw2eJc 750gs2hZ 730gs2hZ 750gs2eJeH 730gs2eJeH 750gs2iNeH 730gs2iNeH 730gi2iNeH 730gT2hu 730hc2ftc 730gw2ftc 730K2bf6ft 730g2ex2eJc 730g2ex2gJeW 730g2ex2fceW 750xZex 730oU 750K2eJeH 730K2eJeH 750K2egc 730K2egc 750K2hZOgt 730K2hZOgt 750K2hZOiM 730K2hZOiM 750K2hZOegc 730K2hZOegc 750K2hZOgH 730K2hZOgH 750K2hZOeJeH 730K2hZOeJeH 750K2jEOgt 730K2jEOgt 750K2jEOiM 730K2jEOiM 750K2jEOegc 730K2jEOegc 750K2jEOgH 730K2jEOgH 750K2jEOeJeH 730K2jEOeJeH 750eG2eJeH 730eG2eJeH 750eG2egc 730eG2egc 750eG2gH 730eG2gH " ++
  "750eG2hZOgt 730eG2hZOgt 750eG2hZOiM 730eG2hZOiM 750eG2hZOegc 730eG2hZOegc 750eG2hZOgH 730eG2hZOgH 750eG2hZOeJeH 730eG2hZOeJeH 750eI2egc 730eI2egc 750eI2eJeH 730eI2eJeH 750eD2eJeH 730eD2eJeH 750eD2egc 730eD2egc 750eD2hZOgt 730eD2hZOgt 750eD2hZOiM 730eD2hZOiM 750eD2hZOegc 730eD2hZOegc 750eD2hZOgH 730eD2hZOgH 750eD2hZOeJeH 730eD2hZOeJeH 750eD2ldOgt 730eD2ldOgt 750eD2ldOiM 730eD2ldOiM 750eD2ldOegc 730eD2ldOegc 750eD2ldOgH 730eD2ldOgH 750eD2ldOeJeH 730eD2ldOeJeH 750e82eJeH 730e82eJeH 750e82egc 730e82egc 750e82ldOgt 730e82ldOgt 750e82ldOiM 730e82ldOiM 750e82ldOegc 730e82ldOegc 750e82ldOgH 730e82ldOgH 750e82ldOeJeH 730e82ldOeJeH 750gw2iM 730gw2iM 750gw2eJeH 730gw2eJeH 750gw2egc 730gw2egc 750gw2gH 730gw2gH 750y8ClV 730y8ClV 750y8CgZ 730y8CgZ 750gw2mv 730gw2mv X30i92hm X30i92hR X30i92hmOi# X30i92hROi# X30i92hmOiy X30i92hROiy X30i92hmOkA X30i92hROkA X50i92hm X50i92hR X50i92hmOi# X50i92hROi# X50i92hmOiy X50i92hROiy X50i92hmOkA X50i92hROkA X30l22hm X30l22hR X30l22hmOi# X30l22hROi# X30l22hmOiy X30l22hROiy !1f18 X50l22hm X50l22hR X50l22hmOi# X50l22hROi# X50l22hmOiy X50l22hROiy !1f20 X30jL2hm X30jL2hR X30jL2hmOi# X30jL2hROi# X30jL2hmOiy X30jL2hROiy X30jL2hmOkA X30jL2hROkA X50jL2hm X50jL2hR X50jL2hmOi# X50jL2hROi# X50jL2hmOiy X50jL2hROiy X50jL2hmOkA X50jL2hROkA X30jW2hm X30jW2hR X30jW2hmOi# X30jW2hROi# X30jW2hmOiy X30jW2hROiy X30jW2hmOkA X30jW2hROkA X50jW2hm X50jW2hR X50jW2hmOi# X50jW2hROi# X50jW2hmOiy X50jW2hROiy X50jW2hmOkA X50jW2hROkA X30mI2hm X30mI2hR X30mI2hmOi# X30mI2hROi# X30mI2hmOiy X30mI2hROiy !1f48 X50mI2hm X50mI2hR X50mI2hmOi# X50mI2hROi# X50mI2hmOiy X50mI2hROiy !1f50 X30k42hm X30k42hR X30k42hmOi# X30k42hROi# X30k42hmOiy X30k42hROiy X30k42hmOkA X30k42hROkA !1f59 X50k42hR !1f5b X50k42hROi# !1f5d X50k42hROiy !1f5f X50k42hROkA X30i42hm X30i42hR X30i42hmOi# X30i42hROi# X30i42hmOiy X30i42hROiy X30i42hmOkA X30i42hROkA X50i42hm X50i42hR X50i42hmOi# X50i42hROi# X50i42hmOiy X50i42hROiy X50i42hmOkA X50i42hROkA X30i92i# X30i92iy X30l22i# X30l22iy X30jL2i# X30jL2iy X30jW2i# X30jW2iy " ++
  "X30mI2i# X30mI2iy X30k42i# X30k42iy X30i42i# X30i42iy !1f80 X30i92hmOlA X30i92hROlA X30i92hmOi#OlA X30i92hROi#OlA X30i92hmOiyOlA X30i92hROiyOlA X30i92hmOkAOlA X30i92hROkAOlA X50i92hmOmi X50i92hROmi X50i92hmOi#Omi X50i92hROi#Omi X50i92hmOiyOmi X50i92hROiyOmi X50i92hmOkAOmi X50i92hROkAOmi X30jL2hmOlA X30jL2hROlA X30jL2hmOi#OlA X30jL2hROi#OlA X30jL2hmOiyOlA X30jL2hROiyOlA X30jL2hmOkAOlA X30jL2hROkAOlA X50jL2hmOmi X50jL2hROmi X50jL2hmOi#Omi X50jL2hROi#Omi X50jL2hmOiyOmi X50jL2hROiyOmi X50jL2hmOkAOmi X50jL2hROkAOmi X30i42hmOlA X30i42hROlA X30i42hmOi#OlA X30i42hROi#OlA X30i42hmOiyOlA X30i42hROiyOlA X30i42hmOkAOlA X30i42hROkAOlA X50i42hmOmi X50i42hROmi X50i42hmOi#Omi X50i42hROi#Omi X50i42hmOiyOmi X50i42hROiyOmi X50i42hmOkAOmi X50i42hROkAOmi X30i92y2F X30i92iX X30i92i#OlA X30i92lA X30i92iyOlA !1fb6 X30i92kA X30i92kAOlA X50i92y2F X50i92iX X50i92i# X50i92iy X50i92mi XyEI Xmi Xhm XkA XpROkA X30jL2i#OlA X30jL2lA X30jL2iyOlA !1fc6 X30jL2kA X30jL2kAOlA X50l22i# X50l22iy X50jL2i# X50jL2iy X50jL2mi XhmOi# XhmOiy XhmOkA X30jW2y2F X30jW2iX X30jW2pROi# X30jW2pROiy !1fd6 X30jW2kA X30jW2pROkA X50jW2y2F X50jW2iX X50jW2i# X50jW2iy !1fdd XhROi# XhROiy XhROkA X30k42y2F X30k42iX X30k42pROi# X30k42pROiy X30mj2hm X30mj2hR X30k42kA X30k42pROkA X50k42y2F X50k42iX X50k42i# X50k42iy X50mj2hR XpROi# XpROiy Xi# !1ff2 X30i42i#OlA X30i42lA X30i42iyOlA !1ff6 X30i42kA X30i42kAOlA X50mI2i# X50mI2iy X50i42i# X50i42iy X50i42mi Xiy XhR !2000 jKnT p0nT jKo9 p0o9 #cpo9 zYBo9 #VQo9 vRo9 gSo9 yA6o9 x7o9 gxs&o9 gxs&#66 gxs&xA y3re2 y9Oe2 rw #65rw vRkg jKkg p0kg g4fF eBehiN eBfViN dhamKe2 bhamKe2 hayVPmKe2 haySnmKe2 deBmKe2 beBmKe2 eByVPmKe2 eBySnmKe2 wo eBwo qh oBqh e9eJyEU eEeJyEU g4vN yTBm& iNnD y4OnD y3ryQu y9OyQu yGVyQ5zY5 y3ryYy y9OyYy y1PyFio9 y4TyWu1 y4ThUg31 s8 eBs8 j8s8 hGs8 hGeBs8 hGj8s8 tB haoYiqmKe2 hangiqmKe2 #I#e2 eBn4e2 y3X w0 yfR goy24 tByDnm& yvf rwqh gap# de3fP2y95 be3fP2y95 eBmZe2 mZn4e2 n4mZe2 yeH1rF hGyZi1 eFf5qh eFepqh fVkD hGsA yBmev eEyveytpwc y2noM1 #ZJkg idyfR y3BgSe2 ePeJgS sns8 eceJgS " ++
  "ejeJgS eEeJgS eceJe2 kZjf yeh ehecfZ gFCo9 nvxA yReyun yDpM yDpnD yDpeu !2066 y3ry7P y9Oy7P uOyd2y7P yGVyQ5y7P yTSydhydG yMQydhydG yTS8Fybr yMQ8Fybr yXSEybq #62Eybq mlgx ml730eI !2074 mlec mlej mlfD mlfO mlfC mlfW mleu1 mloM mllL1 mldkF mlbkF ml730fn kygx kye9 kyeE kyeP kyec kyej kyfD kyfO kyfC kyfW kyeu1 kyoM kylL1 kydkF kybkF !2090 7ky30K 7ky30eG 7ky30eD 7ky30hK 7ky30sr 7ky30gi 7ky30gV 7ky30f7 7ky30g8 7ky30fn 7ky30hI 7ky30ex 7ky30gT !20a0 zV41 lp1 zJH1 yRbzYH1 yVH1 z#p1 #1j1 #DJ1 w91 yJH1 hD#Tm1 yQE1 yRA1 yUH1 #fu1 yCY1 zaO#D81 yZS1 zcF1 yw31 zhS1 z2K1 zti#eD1 #WZ1 #c41 zkWw91 #g4yVH1 #6Be21 zy81 #LC1 zsH1 y&R1 ycf1 !20d0 Vdinc Vbinc Vg2ehiNnp ViDehiNnp VoGRc VplRc VdRc VbRc Vftnp Vplftnp VoGftnp VePfZc VecfZc VwxfG Vwxe3 Vwxk6 VwxfGwj VdbRc Vwxy4p VwxyU6 VwxyfWhpg7 VoNninp VeBeheWnp VyuUB Vj8#iB VsIy0Fc Vf5Rnp Vg2eBninp Vepin2gIgE Vf5in2gIgE VdReH VbReH VkDc !2100 yMOeY ysveQkU#Yh gh5hB y6Hz2P ieiNB z1leY z1N#i4 zV3yBw #Nk y6HzWf fr3gP fr5gi y2c5gi gh5gi yZryBw yZryBwfgeEjh fr5eI y2c5eI fr5f7 fr3f7 f7eMfFB gh5fn #7i1 pd#IxyP7 fr5hI gh5hI gh5j6 fr5ew y2c5ew gh5ew #FJ#bC yap #SDe2 sE1 #eKe21 #kU gh5gs yYv1 y8b1 idy8b1 y2c5gs fuX30jW zno1 yuH1 fr5eM y2c5hB zUuB fr3eG fr5eG fr5iB fu5iB fr5g8 fr3eD fEB y0BB pnB y6EB yDkyHm ip5j6 zWd1 gh3jh gh3n& gh5n& gh5jh ghpYy4& fue75gP fue75f7 hGe75f7 fue75gw ghe45gg ghe43gg ghe43eG ghe43eI ghe43hh #FaiN fuv5 y4T1 ytc fu3iB Be0izyHm ozgae9#SK ozgae9#4i ozgae9yIM ozgae9rb ozgaeEuv ozgae9yCv ozgaeEyCw ozgaePyCw ozgaecyCw ozgae9yHb ozgaejycO ozgae9l1 ozgaePqA ozgaejqA ozgafOqA gay1Ue9 jihoe9 jihoeE jihoeP jihoec jihoej jihofD jihofO jihofC jihofW jihohU jihorq jihoqa jiholT jihoe9fU jihoejfU jihoe9g3 3jihoe9 3jihoeE 3jihoeP 3jihoec 3jihoej 3jihofD 3jihofO 3jihofC 3jihofW 3jihohU 3jihorq 3jihoqa 3jiholT 3jihoe9fU 3jihoejfU 3jihoe9g3 jihoe9g3hBgg jihoejg3 jihohUg3 jihohGe9fU 730hGhB jihofDzsKF jiholTzToF jiholTg3 jihoe9fUg3 ozgagxuv fuEeE fuEeP !2190 f5R gMR epR gER dbR evfBR gKjUR gKirR hAirR hAjUR f5R2eW epR2eW f5lnR eplnR f5eEy7AR " ++
  "gMeEy7AR epeEy7AR gEeEy7AR f5R2j1 epR2j1 f5RlMfF gMRlMfF epRlMfF gERlMfF evfBR2y5q f5R2eg epR2eg f5R2mv epR2mv dblnR dbR2eW gEsMR gMR2oPf5 gMR2oPep gER2oPf5 gER2oPep epR2lDgE gER2lDf5 oGkBy4rR plkBy4rR gKjUReQg2fF f5ReQfFfgepReQfF oGg9fGR plg9fGR f5in2gIgM f5in2gIgE gMin2gIep gMin2gIf5 epin2gIgM epin2gIgE gEin2gIep gEin2gIf5 epRfgf5R gMRf5eYgER f5RfgepR f5w1pN gMw1pN epw1pN gEw1pN f5infgepin epinfgf5in f5eBR2eW dbeBR2eW epeBR2eW f5eBR gMeBR epeBR gEeBR dbeBR evfBeBR gKjUeBR gKireBR hAireBR hAjUeBR f5j8R epj8R f5y9uR epy9uR gMR2eBeW gER2eBeW f5rBR gMrBR eprBR gErBR f5ReQfF epReQfF f5eNR gMeNR epeNR gEeNR gMeNRlMfF gMeNRiay8n gMeNRiay8n2g4fF gMeNRiay8n2ehfF gMeNeBR gMeNeBRiay8n epeNRlMpK gKjUReQlD hAirReQlD evfBeNR bR23fG gERf5eYgMR ePeppN f5R2eheW epR2eheW dbR2eheW f5R2eBeheW epR2eBeheW dbR2eBeheW f5yFzR epyFzR dbyFzR e0y2R z6K y1Zy0S ye5zVG ye5roigzVF qCup zkV y1O rEeY iglBrEeY 3rEeY uEqfy8A roigyByqfy8A 3uEqfy8A m1eY#FZ pYrT pYyP6 pYy4& oM1 z#w1 eJeu vJp# upoM kDk8 ftk8 qhk8 e3y4n yC6y4n y6wy4n #FbeQ y0# biq iq s1iq yHoiq zNk roigyCS theQ igtheQ mRO mRgr p8 of nM eBnM j8nM yBznM yI8nM #lynM plnM plyBznM oGyBznM #cR y#g #If ya6 eJoM zVA zaMya6 yS& gHk8 hGgH idyETex #V7ln #oJrT iggH oMgH yN9fyeQ igyN9fyeQ y05fyeQ y05tAigyMRfyeQ uey05qtyMRfyeQ pifyeQ igpifyeQ pifygrfyeQ j8gH y2RfyeQ qDeQ yR#qDeQ zNCn1 yupkUztQ yR#fyeQ y05fyeQgrkUuXeY uXeYgry05fyeQ lplL lLlp ftitfyeQ ftfyeQ zIweQ zUv zUieQ j7lL oUfyeQ fyeQrlzMJ s1rl #H9fyeQ igfyeQ y7KeQ igy7KeQ #Y9qDeQ j5grfyeQ j4grfyeQ j5fgfyeQ j4fgfyeQ j5tAigfyeQ j4tAigfyeQ y3&j5 y3&j4 n1 igqDeQ igj5 igj4 uej5qtfyeQ uej4qtfyeQ j5grqDeQ j4grqDeQ uej5qtqDeQ uej4qtqDeQ j5grj4 j4grj5 uej5qtj4 uej4qtj5 rS ra rSgrfyeQ ragrfyeQ rSgrqDeQ ragrqDeQ roigyZ& roigyd6 nHeY nIeY igKnHeY igKnIeY nHeYgrfyeQ nIeYgrfyeQ ueKnHeYqtfyeQ ueKnIeYqtfyeQ nHeY2igfyeQ nIeY2igfyeQ yFF yFFrM yFFof e3uXeY e3y4JeY e3uXeYgrfyeQ e3y4JeYgrfyeQ e3y5& e3y2q e5eu e5oM e5M e5vJp# e5eJk8 e5ftk8 e5kDk8 e5lL e5kg ezeu ezoM ezM ezeJk8 bla dla fBla evla yvc z&E yIq zY3 " ++
  "j8ehfFbwa eBehfFeBbwa roig#Fe igyIq roigzY2 yXZeBehfFeBbwa rStzy9E ratzy9E tewJeY uEqftewJ tewJeYgrfyeQ uEqftewJgrfyeQ y4JeY uXeY yFE zeEzIWzyi zkj #p6 #1l qt biq2oQ bg7 pYmRO pYmRgr pYp8 pYof k6k8 eJk8 j7k8 vJM y5w dteyCpy4srT bteyCpy4srT dy4srT by4srT hGgHlL lKmRgr lKmRO eBnH eBnI eBp8 eBof yZp fyOtheQ j52eJ j42eJ mAy3&j5 mAy3&j4 j5fyeQgrj4 j4fyeQgrj5 fyeQgrj5 fyeQgrj4 fyeQgrrS fyeQgrra roigyZ&grfy roigyd6grfy ige3uXeYgrfyeQ ige3y4JeYgrfyeQ e3uXeYgrigfyeQ e3y4JeYgrigfyeQ j5tAigqDeQ j4tAigqDeQ rStAigqDeQ ratAigqDeQ igtewJeY roigyByqftewJ igtewJeYgrfyeQ roigyByqftewJgrfy ehvN yWog4vN evbgJvN fBbgJvN rEeY2g2g4eW rEeY2ehfFmnm1eYg4eW 3rEeY2ehfFmnm1eYg4eW rEeY2eJc rEeY2rO 3rEeY2rO rEeY2nX rEeY2eEg4yI2 uE2g2g4eW uE2ehfFmnm1eYg4eW 3uE2ehfFmnm1eYg4eW uE2rO 3uE2rO gshly5mzzK zN51 y6cR y0y evht fBht #FX #DG s#iN dpP bpP dp2 bp2 lCby6B lCdy6B kBby6B kBdy6B hGig1 e3rH oQ yHE #Nw sE#Iw y1dlk #lWe3 xTeYzkk1 fuig1 yfu y7F kBdlD kBblD lCdlD lCblD kBf6nM lCf6nM y6y y4w evhtn1eEg4y2Y #Ayua yR1eQkUb hKitKujey y3i oYiqfP ngiqfP yR1eQkUd yNift zJc y2RyvD #Zo yeU#LM zNJ#B0 zIV#bO #Vo zIz zI# iKiLBziU iKiLB#WvnT iKiLBnTfy iKiLBnTyCS iKiLBnTk6 iKiLBnTvd iKiLBnTfG iKiLBfGy1w iKiLBfGvd iKiLBp#fF iKiLBwjfF iKiLBnTp# iKiLBnTwj iKiLBnTj5 iKiLBnTj4 iKiLBf5yAV iKiLBepyAV iKiLBnTf5R iKiLBnTepR iKiLBfGwj iKiLBfBlanX iKiLBoUy1w iKiLBnTfBtB iKiLBnToU iKiLBfBlavd iKiLBgMyAV iKiLBnTgMR iKiLBevlarO iKiLBy6Iy1w iKiLBnTevtB iKiLBnTy6I iKiLBevlavd iKiLBgEyAV iKiLBnTgER iKiLByaOnX iKiLBoUnX iKiLBk6nX iKiLBvdnX iKiLBfGnX iKiLBevxbvd iKiLByaOnT iKiLBfGj7 iKiLBnTlp iKiLBevlahu iKiLBy6Ihu iKiLBj7hu iKiLBvdhu iKiLBfGhu iKiLBfBxby1w iKiLBdxby1w iKiLBgHhu iKiLBj4hu iKiLBi&fF iKiLBy6IgH iKiLB#tE iKiLBy1wgH iKiLBsAnX iKiLBnTigfy iKiLBnTmZ iKiLBfBtBgH iKiLBevtBgH iKiLBjW iKiLBmj iKiLBi4 iKiLBi9nX iKiLBl2nX iKiLBjWnX iKiLBi4nX iKiLBi9 igqje2 biq2gEsMR #UJg9ey wmB ehiN2eaeJ yDnB zIdyfQB zNXyfQB yQwB yBtB eNe32ieehiN yQ#B yAwuaB ze8B e5g4fF2yY8 e5g7fB y0GfG2#6DR #iCB z&bB ziFB yYozclB yYozqyB #CeB #CfB yCRyC7BFeE #W9B " ++
  "iKiLBnT yCKnDuaB #FNtg #3Atg ya2y4pB z4Dy4pB dkFfAeg dkFvQ dkFf3eg bkFfAeg bkFvQ bkFf3eg de3fPfAlD de3fPvQ de3fPf3lD be3fPfAlD be3fPvQ be3fPf3lD dlKfPfAeg dlKfPeaw4 dlKfPf3eg lKfPvQ blKfPfAeg blKfPeaw4 blKfPf3eg nMvQ g4iNvQ fAdgrf3blKfPl8 fAbgrf3dlKfPl8 y4&kB y4&lC kBe3fP lCe3fP lCe3fPfgkBe3fP e6BlC deheyiN beheyiN g4y9WztV g4y9WztW g4y9WztX g4y9WztY q9BfIehOkBb q9BfIehOlCb q9BfIeh2fG q9BfIfBOg42fG q9BfIevOg42fG q9BfIeh2g7 q9BfIfBOg42g7 q9BfIevOg42g7 q9BfIehOln q9BfIfBOg42ln q9BfIevOg42ln q9BfIfBOg4 q9BfIevOg4 q9BfIehOkBd q9BfIehOlCd e3y6t y4kB zU3B ehiNvQ ucjE ucg2fgiD uciDfgg2 ucg2fgeEy9i uceEy9ifgg2 uceEy9iy3c ucyej ucyd& ucyZK pmySK zYV kBkF lCkF kBlKfP lClKfP kBnJlyfP lCnJlyfP eN#eQ yNift2fG #Y0 zXk y5YyC7 zU9p8 yCKzVIB eFngeBg7 eFoYeBg7 eFpgeBg7 eFrCeBg7 eFngeBg72ehfF eFoYeBg72ehfF eFngg72eBehfF ythmo #Xy #dMmo y7F2zXq#NC eFgFoYg7 eFgFngg7 eFgFpgg7 eFgFrCg7 eBehfF eFe3e0i1 eFfGe0yag y1eB y1e#AdB y1eiaB y1e#VhB #ALtNB Be0yYJ Be0y4yeYzdw Be0y4yeYut Be0m1eYut Be0m1eYyea Be0zUU Be0yMP Be0wm Be0yzW Be0g4ydk Be0iNyCs Be0ehydk Be0FyCs Be0z1oy4k Be0ybwps Be0ybwit Be0zLayVFyR5 Be0y6Ky0Me9 Be0y6Ky0MeE Be0y6Ky0MeP Be0y6Ky0Mec Be0gcyMP Be0#Zrzjo Be0m1eYyeaf9 Be0yOW Be0m1eYgF Be0yd5 Be0yR5 Be0y37nD Be0ySLnD Be0yagnD Be0sFnD Be0o9 Be0yPt yNvB g9ey Be0yFV Be0yPtFeE Be0yd5FeE !2440 sleg slyOn sly6u slidy6u slsPz0I sly0Ey24 slyBPyBDyTG slyu3eYqj slkg slzJVyMOT sleBwj !2460 e5Ee9 e5EeE e5EeP e5Eec e5Eej e5EfD e5EfO e5EfC e5EfW e5ThU e5Trq e5Tqa e5TwS e5TvT e5TsW e5Ttp e5TwC e5TuJ e5Tvw e5Tj& fREe9 fREeE fREeP fREec fREej fREfD fREfO fREfC fREfW fRThU fRTrq fRTqa fRTwS fRTvT fRTsW fRTtp fRTwC fRTuJ fRTvw fRTj& Ee9jgi1 EeEjgi1 EePjgi1 Eecjgi1 Eejjgi1 EfDjgi1 EfOjgi1 EfCjgi1 EfWjgi1 ThUjgi1 Trqjgi1 Tqajgi1 TwSjgi1 TvTjgi1 TsWjgi1 Ttpjgi1 TwCjgi1 TuJjgi1 Tvwjgi1 Tj&jgi1 fR730K fR730eM fR730hB fR730gg fR730eG fR730iB fR730gP fR730gi fR730eI fR730hh fR730gV fR730f7 fR730g8 fR730fn fR730eD fR730hI fR730j6 fR730ew fR730ex fR730gT fR730e8 fR730gZ fR730hc fR730hK fR730gw fR730gs e5750K " ++
  "e5750eM e5750hB e5750gg e5750eG e5750iB e5750gP e5750gi e5750eI e5750hh e5750gV e5750f7 e5750g8 e5750fn e5750eD e5750hI e5750j6 e5750ew e5750ex e5750gT e5750e8 e5750gZ e5750hc e5750hK e5750gw e5750gs e5730K e5730eM e5730hB e5730gg e5730eG e5730iB e5730gP e5730gi e5730eI e5730hh e5730gV e5730f7 e5730g8 e5730fn e5730eD e5730hI e5730j6 e5730ew e5730ex e5730gT e5730e8 e5730gZ e5730hc e5730hK e5730gw e5730gs e5Egx gce5Trq gce5Tqa gce5TwS gce5TvT gce5TsW gce5Ttp gce5TwC gce5TuJ gce5Tvw gce5Tj& eBe5Ee9 eBe5EeE eBe5EeP eBe5Eec eBe5Eej eBe5EfD eBe5EfO eBe5EfC eBe5EfW eBe5ThU gce5Egx eyfMfIg4 eyfMeZg4 eyfMfIeh eyfMeZeh eyfMfIj8kgg4 eyfMeZj8kgg4 eyfMfIj8kgeh eyfMeZj8kgeh eyfMfIsnkgg4 eyfMeZsnkgg4 eyfMfIsnkgeh eyfMeZsnkgeh eyfMfIfBOb eyfMfBfIObeZ eyfMfBeZObfI eyfMeZfBOb eyfMfIfBOd eyfMfBfIOdeZ eyfMfBeZOdfI eyfMeZfBOd eyfMfIevOb eyfMevfIObeZ eyfMeveZObfI eyfMeZevOb eyfMfIevOd eyfMevfIOdeZ eyfMeveZOdfI eyfMeZevOd eyfMfIehOb eyfMehfIObeZ eyfMeveZObfBfI eyfMfBeZObevfI eyfMeheZObfI eyfMfBfIObeveZ eyfMevfIObfBeZ eyfMeZehOb eyfMfIehOd eyfMehfIOdeZ eyfMeveZOdfBfI eyfMfBeZOdevfI eyfMeheZOdfI eyfMfBfIOdeveZ eyfMevfIOdfBeZ eyfMeZehOd eyfMfIfBOg4 eyfMdeZObfBfI eyfMbeZOdfBfI eyfMfBfIOg4eZ eyfMfBeZOg4fI eyfMbfIOdfBeZ eyfMdfIObfBeZ eyfMeZfBOg4 eyfMfIevOg4 eyfMdeZObevfI eyfMbeZOdevfI eyfMevfIOg4eZ eyfMeveZOg4fI eyfMbfIOdeveZ eyfMdfIObeveZ eyfMeZevOg4 eyfMfIehOg4 eyfMdeZObehfI eyfMbeZOdehfI eyfMehfIOg4eZ eyfMeveZOfBg4fI eyfMfBeZOevg4fI eyfMeheZOg4fI eyfMdeveZObfBfI eyfMbeveZOdfBfI eyfMdfBeZObevfI eyfMbfBeZOdevfI eyfMfBfIOevg4eZ eyfMevfIOfBg4eZ eyfMbfIOdeheZ eyfMdfIObeheZ eyfMeZehOg4 eyfMfIeBkgg4 eyfMeZeBkgg4 eyfMfIeBkgeh eyfMeZeBkgeh eyfMeBg4 eyfMeBeh eyfMfBhaObeB eyfMfBeBObha eyfMeBfBOb eyfMfBhaOdeB eyfMfBeBOdha eyfMeBfBOd eyfMevhaObeB eyfMeveBObha eyfMeBevOb eyfMevhaOdeB eyfMeveBOdha eyfMeBevOd eyfMehhaObeB eyfMeheBObha eyfMeBehOb eyfMehhaOdeB eyfMeheBOdha eyfMeBehOd eyfMfBhaOg4eB eyfMfBeBOg4ha eyfMeBfBOg4 eyfMevhaOg4eB eyfMeveBOg4ha eyfMeBevOg4 eyfMehhaOg4eB eyfMeheBOg4ha eyfMeBehOg4 " ++
  "eyfMfIoQfBOb eyfMfIoQfBOd eyfMfIoQevOd eyfMfIoQevOb eyfMfIgJfAbeQf3d eyfMfIgJfAdeQf3b eyfMfIgJjf eyfMfId eyfMfIev eyfMfIb eyfMfIfB eyfMeZd eyfMeZev eyfMeZb eyfMeZfB eyfMfIdOeZb eyfMfIevOeZfB eyfMeZdOfIb eyfMeZevOfIfB fAf6f9 f3e9l1f9 f3e9l6f9 f3ePqAf9 f3f6f9 f3ejqAf9 f3ePqQf9 f3fOqAf9 jgf9 dfOqAf9 dePqQf9 dejqAf9 df6f9 dePqAf9 de9l6f9 de9l1f9 bf6f9 fIqW gFqW yPbqW fAe9l1f9 be9l1f9 nff3d nff3b nffAd nffAdOf3dOf3b nffAdOf3b nffAdOfAbOf3d nffAdOfAbOf3b nffAb nffAbOf3d nffAbOf3dOf3b eFe3 eNe3 eNe32qVy0O eNe3uDeF3e3 e32g4p1 e32ehp1 e32#B3yPCp1 e32fAdeQf3bp1 e32fAbeQf3dp1 e32gJyPCp1 eF3e3 eN3e3 eFuj eNuj eFehuj eNehuj eFyZA eNyZA eFpgg7 eNpgg7 eFpg3g7 eNpg3g7 eFngg7 eNngg7 eFng3g7 eNng3g7 eFngy4X eNngy4X eFrCg7 eNrCg7 eFrC3g7 eNrC3g7 eFoYg7 eNoYg7 eFoY3g7 eNoY3g7 eFoYy4X eNoYy4X eFk6 eNk6 eNk6uDeF3k6 zXT rH eNfG kZfG fG2ehp1 z0O eFfG fG2df6eF fG2bf6eF fG2f3f6eF fG2fAf6eF fG2fAbnfeF fG2y2RtAfAdnfeF df6eFfG bf6eFfG saqh saeNfG fAf6saeNfG f3f6saeNfG fAdnfy2koQ fAbnfy2koQ f3bnfy2koQ f3dnfy2koQ fAf6fG f3f6fG eFf3bg7 eFf3dg7 eFfAdg7 eFfAbg7 eNqh e32df6eF e32bf6eF e32fAdgJf6eF e32f3bgJf6eF eNe32ehy&NiN eNpgg72eJ pgg72df6eF pgg72bf6eF gvfG eNe32fAdnf eNe32f3dnf eNe32f3bnf eNe32fAbnf eNfG2fAdnf eNfG2f3dnf eNfG2f3bnf eNfG2fAbnf fAdg7 fAbg7 f3dg7 eNgFe3 eFgFe3 eNgF3e3 eFgF3e3 f3bg7 eFq02so tE y5J yHk z6F eFj7 eNj7 y3s #cs q0 yN6yY6 yCPyY6 zIX yF# eFsE eNsE r7ey r7ey2qj r7ey2hK sq y5J2xWzSM y3TyNk eNy9gw4 eFy9gw4 #TX hGipyC#mGqh eFdhpf2 eFbhpf2 eNdhpf2 eNevhpf2 eNbhpf2 eNfBhpf2 yHeOyPB z1x1 #IL1 y&I1 yOS yuR #B2jf n3mj jfeYzuB jfeYzlR j7Oy0P qmB ysx#TU y78O#Uy yGDB v1sK wXe0y7B wXe0yUp wXe0sX wXe0yIW wXe0t0 wXe0r1 wXe0vr wXe0pm yAZeYzMr eNy6zf0 eNnhf0 eFnhf0 eNq02so uOl6mU yESl6mU y8B y0j1 pm td1 zmL #NO yfX yXb y4W yv6 #bY zaG z1X zsr #lh ztA #Ng #Mp z1h yut #EH eNgmpB eNgmpt eNgms9 eNgmrj eNgmmh eNgms7 eFgmpB eFgmpt eFgms9 eFgmrj eFgmmh eFgms7 eFycjus eNmGus eNk6us eFyBpus eNycjus eFmGus eFk6us eNyBpus y3T#Wo l6m# l1m# y5rl1y4D y5ry1ty4D y8Ix11 y8IyFO1 y8IxZ1 jUh3jf irh3jf yfStkB " ++
  "tkBe0#gXxU tkBe0#gZxU tkBe0yfGxU tkBe0yfHxU tkBe0yfIxU tkBe0yfJxU tkBe0#gaxU tkBe0zaIzyh eFyfStkB #Izy8jB #CWy8jB #DEy8j1 yJFB vIzWW vIzWX vIzWY vIzWZ vIzWa vIzWb eNfG2eJb eNfG2eEfZ eFfG2eNeJb eFfG2eEeNfZ ude0sK ude0v1 uHe0ySIsK uHe0yV6v1 uHe0yV6sK uHe0ySIv1 eNru eFru y78OyZa yMn rA#ZI wGeYyt8 #NZ yMe y3B yDE wGeYzeD yvsB zXl xSeNj7 ePyEcyP4b ePyEcyP4d #nE1 fc#lx1 y2yy0j1 y2ytd1 zkly0jOtd1 tdOy0j1 td2eW1 td2eWOtdOy0j1 ehtd2eW1 g4td2eW1 gFeNfG gFeFfG gF3eNfG zyTB zNmB #iKyZCB z66 zYS#iX #38 z2b #Br zmF #lH z3L eFmUztM #TL #S2 #HD #SE #W5ri y#0 ezua eNy6Uo5 eNy6UpB eFy6Uo5 eFy6UpB yHky5OyHi q0yBItE xW eFyHk yIWtEOxW fueNy9gw4 fueFy9gw4 eNk6ite3 lqyUt zNWvC #Av yZa vC#Vm y7D2eNjf e5lqyUt z2g kuyCi km#Aidy5Ny5A eFyfDdy5Ny5A eNyfDdy5Ny5A eFdyUsyWf eNdyUsyWf yQNycV1 eZeNrCg7 dkQyCi ezsq wzgJiteNfGiteFe3 eFyIp yaqdzUX yaqdzUY yviBe0yfX eZfG2eWOeEfZc y8p #K1yTVy8p zscyTVy8p idy8p eFjfiayHP #Ty#UP yOu yBd zev#VO yDEy5OzhZ yDE2zdT y3tBe0ztJ vr y5JiaySK yRZ ruitySy zX5 #Ms e3ecy0O #VY vaycR o72ri yIL vbyBDB ySezc8B zYO#Fs y2qiaeFe3 eNru2g4eaeF#YC eFyH6y1n fAyNuy1n eFy1n f3yNuy1n eNy1n eNeZqje2 sEvk1 ydoyQN v4 uL lfyCy lfm4 yffm4 yg8m4 f3by8o y8o fAby8o eNyXu eFyXu qje2 eZqje2 rMhK eZrMhK r7hK eZr7hK xSXjf eZXjf g9iejf eZg9iejf 7jf rYeN7jf xS7jf zy5jf j7eYzLb ecxnkD ecyBBkD eZecyBBkD ecz4RkD eFeclGj7 eNeclGj7 #WR y4zxSeNj7 e5eNj7 g9ieeFj7 eFieeNj7 xSeFj7 eZxSeFj7 uij7 rYeNj7 eZkD g9iekD fCpHkD fClGeFj7 fClGuij7 fDlGeFj7 fClGyaieFj7 eZfClGyaieFj7 qalGeFj7 tplGkD xnkD g9iexnkD eZxnkD fDyZTeFOeNy6r eFy6r eNy6r fCyZTxSeFy6r e5g9iefClGj7 eZxnuikD yHj yIZ#eXyHj eZyOryHj yck eZyck yBBkD fCxnya5kD eZfCxnya5kD jfe2 rYeNfG gcezjfe2 f3byQOeNe3 fAbyQOeNe3 f3brYeNe3 fAbrYeNe3 eFmZe2il eNmZe2il eNn4e2il eFk6oMeNhK eZn4e2B fIehfF gFehfF eZehfF eZhafui&mKe2il eZhai&mKe2il eZeBfui&mKe2il eZeBi&mKe2il eZfVhai&mKe2il eZfVeBi&mKe2il oTswy4O1il eZn4e2il eZmGn4e2il eZeFmG ipeZeFmGqh yC#mG ipyC#mGqh gFdkFil gFbkFil gFy39dkFil gFy39bkFil gFoYiqfPil gFngiqfPil eZoYiqmKe2il eZngiqmKe2il eZoYiqfPil " ++
  "eZngiqfPil fIdnJlyfPil fIbnJlyfPil gFdlKfPil gFblKfPil ltgce5Ee9 ltgce5EeE ltgce5EeP ltgce5Eec ltgce5Eej ltgce5EfD ltgce5EfO ltgce5EfC ltgce5EfW ltgce5ThU lte5e7Ee9 lte5e7EeE lte5e7EeP lte5e7Eec lte5e7Eej lte5e7EfD lte5e7EfO lte5e7EfC lte5e7EfW lte5e7ThU ltgce5e7Ee9 ltgce5e7EeE ltgce5e7EeP ltgce5e7Eec ltgce5e7Eej ltgce5e7EfD ltgce5e7EfO ltgce5e7EfC ltgce5e7EfW ltgce5e7ThU eZklepR eZeu1 eZoM1 eZvJ1 eZhAirR eZepR eZgKirR zSHm&epR eZ#KgepR hsepR eZhsepR rBhsepR eZrBhsepR eFepR y23yIjepht y23y&pepht eFepht eZeFoTgEOepR eZeFoTgMOepR ycreFepR eZzIPeFepR yG#eNepR yEXeNepR yB8rYeNepR yD8rYeNepR eZf3y9NeNepR eZfAy9NeNepR tff3y9NeNepR lKmv tffAy9NeNepR e5eZeNepR #nfepR y0ChAirR y0CepR y0CgKirR eZy0ChAirR eZy0CepR eZy0CgKirR #bsepR eZ#btepR yf#epR eZyf#epR #AtepR eBlKmv ePzNKiq eNg7uD3eNg7 yGH g9nH g9nI dybKy5my6J bybKy5my6J gr2eJor oNniya0nH nIya0ni ehfF2g4eW CqRgJ g2vJ CwzgJ ezmRO ezmRgr eNk62u9eJ O2eJ rEeYxQgM f3blD2eJ fAdlD2eJ dyG0y7U byG0y7U jgyG0y7U gvevla gvfBla dObeBwa dObla dyFE g2bla g2dla evla2fGc rHyCTrlg4#LI eNyBvk6 eNyBvk62f5tt eNyBvk62eptt eNe32f5tt eNe32eptt CdeNe3fP CbeNe3fP CdiqfP CbiqfP CdeBiqfP CbeBiqfP CdeNnJlyfP CbeNnJlyfP Cdy39kF Cby39kF gMsnR gEsnR oGyRpfGR plyRpfGR bR2e5eu g2f5R g2epR g2dbR g2f5eBR g2epeBR g2dbeBR g2f5RlMfF g2epRlMfF g2f5eBRlMfF g2epeBRlMfF g2epy9uR eTeSyNv eTeSzOA eTeSzQA eTeSzOB eTeSzRA eTeSzPB eTeSzQB eTeSzOC eTeSzRg eTeSzPh eTeSzQh eTeSzOi eTeSzRB eTeSzPC eTeSzQC eTeSzOD eTeSzRw eTeSzPx eTeSzQx eTeSzOy eTeSzRR eTeSzPS eTeSzQS eTeSzOT eTeSzRh eTeSzPi eTeSzQi eTeSzOj eTeSzRC eTeSzPD eTeSzQD eTeSzOE eTeSzS2 eTeSzQ3 eTeSzR3 eTeSzP4 eTeSzRZ eTeSzPa eTeSzQa eTeSzOb eTeSzRp eTeSzPq eTeSzQq eTeSzOr eTeSzRK eTeSzPL eTeSzQL eTeSzOM eTeSzRx eTeSzPy eTeSzQy eTeSzOz eTeSzRS eTeSzPT eTeSzQT eTeSzOU eTeSzRi eTeSzPj eTeSzQj eTeSzOk eTeSzRD eTeSzPE eTeSzQE eTeSzOF eTeSzS6 eTeSzQ7 eTeSzR7 eTeSzP8 eTeSzRd eTeSzPe eTeSzQe eTeSzOf eTeSzRt eTeSzPu eTeSzQu eTeSzOv eTeSzRO eTeSzPP eTeSzQP eTeSzOQ eTeSzR& eTeSzQ0 eTeSzR0 eTeSzP1 eTeSzRW eTeSzPX eTeSzQX " ++
  "eTeSzOY eTeSzRm eTeSzPn eTeSzQn eTeSzOo eTeSzRH eTeSzPI eTeSzQI eTeSzOJ eTeSzS3 eTeSzQ4 eTeSzR4 eTeSzP5 eTeSzRa eTeSzPb eTeSzQb eTeSzOc eTeSzRq eTeSzPr eTeSzQr eTeSzOs eTeSzRL eTeSzPM eTeSzQM eTeSzON eTeSzRy eTeSzPz eTeSzQz eTeSzO# eTeSzRT eTeSzPU eTeSzQU eTeSzOV eTeSzRj eTeSzPk eTeSzQk eTeSzOl eTeSzRE eTeSzPF eTeSzQF eTeSzOG eTeSzS8 eTeSzQ9 eTeSzR9 eTeSzPA eTeSzRf eTeSzPg eTeSzQg eTeSzOh eTeSzRv eTeSzPw eTeSzQw eTeSzOx eTeSzRQ eTeSzPR eTeSzQR eTeSzOS eTeSzS1 eTeSzQ2 eTeSzR2 eTeSzP3 eTeSzRY eTeSzPZ eTeSzQZ eTeSzOa eTeSzRo eTeSzPp eTeSzQp eTeSzOq eTeSzRJ eTeSzPK eTeSzQK eTeSzOL eTeSzS5 eTeSzQ6 eTeSzR6 eTeSzP7 eTeSzRc eTeSzPd eTeSzQd eTeSzOe eTeSzRs eTeSzPt eTeSzQt eTeSzOu eTeSzRN eTeSzPO eTeSzQO eTeSzOP eTeSzR# eTeSzP& eTeSzQ& eTeSzP0 eTeSzRV eTeSzPW eTeSzQW eTeSzOX eTeSzRl eTeSzPm eTeSzQm eTeSzOn eTeSzRG eTeSzPH eTeSzQH eTeSzOI eTeSzS7 eTeSzQ8 eTeSzR8 eTeSzP9 eTeSzRe eTeSzPf eTeSzQf eTeSzOg eTeSzRu eTeSzPv eTeSzQv eTeSzOw eTeSzRP eTeSzPQ eTeSzQQ eTeSzOR eTeSzS0 eTeSzQ1 eTeSzR1 eTeSzP2 eTeSzRX eTeSzPY eTeSzQY eTeSzOZ eTeSzRn eTeSzPo eTeSzQo eTeSzOp eTeSzRI eTeSzPJ eTeSzQJ eTeSzOK eTeSzS4 eTeSzQ5 eTeSzR5 eTeSzP6 eTeSzRb eTeSzPc eTeSzQc eTeSzOd eTeSzRr eTeSzPs eTeSzQs eTeSzOt eTeSzRM eTeSzPN eTeSzQN eTeSzOO eTeSzRz eTeSzP# eTeSzQ# eTeSzO& eTeSzRU eTeSzPV eTeSzQV eTeSzOW eTeSzRk eTeSzPl eTeSzQl eTeSzOm eTeSzRF eTeSzPG eTeSzQG eTeSzOH epoyR2eheW epoyR2eBeheW f5eBR2eheW epeBR2eheW dbeBR2eheW epoyRlMfF f5eBRlMfF epeBRlMfF gER2g4eW gMR2g4eW gMj8R gEj8R f5eBkgR epeBkgR f5j8kgR epj8kgR epoyj8kgR epR2kZsw gMReQfF gEReQfF epR2j12eheW epR2j12eBeheW epoyR2j1 epoyR2j12eheW epoyR2j12eBeheW f5y5h epy5h f5eBy5h epeBy5h f5ReQeFk6 epReQeFk6 f5RlMfFeQeFk6 epRlMfFeQeFk6 gKjUOhAirR gKirOhAjUR gKjUR2eg gKirR2eg hAirR2eg hAjUR2eg gKjUROgKirR gKirROhAirR hAirROhAjUR hAjUROgKjUR qRgJlqwzgJ wzgJlqqRgJ hAirRlqgKirR gKirRlqhAirR wzgJlqgKirR qRgJlqhAirR gKirRlqgKjUR gKjURlqgKirR lnRhpyQ6b Rhpepuuy2rgM Rhpepuuy2rgE RhpgEuuy2rf5 RhpgEuuy2rep #K3oQplR zseoQoGR kBoQoGR lCoQoGR kBoQplR2oM kBoQoGR2eu " ++
  "f3byHIplR f3dyHIoGR oGkQfGR plkQfGR epRciDf5R f5RciDepR iDepRcf5R epR2eueH f5R2eueH epRqYhK dbRqY3fG gMoyRlM3fG dgIevbgIfBin dgIfBbgIevin evgIbfBgIdin evgIdfBgIbin dgIevbgIevin evgIbfBgIbin dgIfBbgIfBin evgIdfBgIdin f5in2gIeveQfF epin2gIeveQfF gMin2gIbeQfF gEin2gIbeQfF f5in2gIfBeQfF epin2gIfBeQfF gMin2gIdeQfF gEin2gIdeQfF f5in2gIevlMfF epin2gIevlMfF gMin2gIblMfF gEin2gIblMfF f5in2gIfBlMfF epin2gIfBlMfF gMin2gIdlMfF gEin2gIdlMfF f5in2gIevcf5in2gIfB gMin2gIdsQgMin2gIb epin2gIevcepin2gIfB gEin2gIdsQgEin2gIb f5in2gIevcepin2gIev f5in2gIfBcepin2gIfB epin2gIevcf5in2gIev epin2gIfBcf5in2gIfB f5in2gIevcg2kg f5in2gIfBeHg2kg epin2gIevcg2kg epin2gIfBeHg2kg gMin2gIdsQgEin2gIb gEin2gIdsQgMin2gIb beBR2qVmg lL1cepR gHk8cepR f5RcgHk8 epRcgHk8 epRcpifyeQ j5cf5R f5RqYj5 j4cepR nHcepR f5RqYnH nIcf5R dtPj1 btPj1 evtPj1 fBtPj1 j8ehfFy6J gshl#Wk gshlyAOlp deNlKfP beNlKfP deNkF beNkF gshlduXfP gshlbuXfP gshldyNqfP gshlbyNqfP de3fP2nX be3fP2nX de3fP2ttitkBlD be3fP2ttitlClD de3fP2ttitlClD be3fP2ttitkBlD diqfP2eJ biqfP2eJ doQj5fP boQj4fP eBdoQj4fP eBboQj5fP deFnJlyfP beFnJlyfP kZy36 ehsMiN s1iqxQd biqlz2e3 s1biq2eJ iq2exor gtiq yHoiqxQd yHoiqxQev fuiq hGiq iq2nX hGiq2nX pZiqxQev pZiqxQfB s1iq2g9nwvOitRhpevOb s1iq2g9nwvOitRhpevOd s1iq2g9nwvOitRhpfBOb s1iq2g9nwvOitRhpfBOd s1iq2g9nwvOitRhpbOev s1iq2g9nwvOitRhpdOev s1iq2g9nwvOitRhpbOfB s1iq2g9nwvOitRhpdOfB hGqCup qCup2rO qCup23fGc qCup2bRc qCup2dRc fG2g4fF e5ehfF e5th e5oNni e5yGH fGyCTrlg4fFOkBf6yCTrlehfF fG2#Y&hK e5yuYvJ1 evRqYfG e5eNqh e5qh e5j5 e5j4 fG23fGeQkUb fG2eEg4yI2eQkUb ezqRgJp# ezwzgJp# ezkD ez3fG eze3 eEy3cy9t g72eJc g72nX exitg7 g72y9ZmnlC bg7cdg7 dg7sQehfF ehfFsQbg7 y5w2df6eF y5w2bf6eF eFy5w M2df6eF M2bf6eF eNy7F eFy7F dy2Iy36 by2Iy36 deBy2Iy36 beBy2Iy36 zkTy0# y24fgy0# y0#yXZ2ehfF zSCyFE e32zIe#BD zkUqf #UXrT lL1Omkth lL1Omkth2gHc y7KeQOmkth zbc#Xg #cS rCg72df6eF rCg72bf6eF eFk62fBR eFrH eNfG2fBR eFfG2fBR y0geNe3 y0geFe3 y0geNk6 y0geFk6 y0geNfG y0geFfG #LJ oNnik8 ni2rO oNni2g4eW q7ni q7oNni eBeu j8eu oYoTiqfP ngoTiqfP y57 z#x " ++
  "pYe5eJk8 pYe5euk8 pYe5Mk8 pYofk82eJ pYofk82eu pYe3p8k8 pYe3ofk8 eEmROk8 eEmRgrk8 pYMk8 z&SeEy1y y4&2nM snnMk8 zXNyGAnM nM2eBeW nMyw92p# z40yRe oGy7N iNy7N2yahy4QyB1y4Y iNy7N2yHIy4QyB1y4Y iNy7NigzkRkUy4Y nMyB1Km&k8 #H6nMk8 nM2f5R2eg nM2M1 nM2p8 nM2of nM2rO nM2nX y7U gvdg7k8 gshlyHByBt gshlyHB#ED gshlyHB#FW eu123fGc eu12hZiSc eu12gHc eu12eJeH eu12gHeH eu12kyeE eu12eFg7 oM12i&c oM12eJeH oM12wzfZ oM12qRfZ eu1itdf6fG eu1itbf6fG #kNgrjfrT rM12eJc rM12nX y4srT2lCkQ ycYrT rM1itdf6fG rM1itbf6fG e5rM12hZiS rM1iteBfG e5vJ1 eu1itg7 oM1itg7 rM1itg7 yTUrT #K4yTUrT gshl#J9yBt yt#gryP6 p82eJ of2oM1 of2rO p82rO p82mRO of2mRgr ofcp8 p8cof ofcfFcp8 p8cfFcof ofsQOy3c2of p8sQOy3c2p8 kQof2y9Z kQp82y9Z eBe3p8 eBe3of kQof2y9ZOycYrT mRO2eJc mRgr2eJc eBmRO eBmRgr eEyTXmRO eEyTXmRgr ycUgvgr ycUgvO mRgry4LmRO mRO2easw mRgr2easw mRO2g4kg mRgr2g4kg mRO2eBrO mRO2nX mRO2eBnX 3wb2nX mRgr2eBrO mRgr2eBnX gshlzO5yMt gshly4hyMt lL12eJeH y7K2eJc j8g4fF2eBeheW j8g4fF2j8eheW gHk82eJc gHk82qRfZ tooMto zIU2eJc lL2kD pifyeQ2hZiS y05fygrfyeQ lL1ceu1 eu1clL1 lL1cgHk8 eBlpfy eEyP3lLycC ePyP3lLycC lL12eEfZcOeEfZeH qD2ecfZc j52fGor j42fGor j52mZe2c j42mZe2c j5grmkfyeQ j4grmkfyeQ j5grmkfyeQ2eJor j4grmkfyeQ2eJor j5grmkfyeQ2eJc j4grmkfyeQ2eJc j5grmkfyeQ2eJcb j4grmkfyeQ2eJcd j5gry5f j4gry5f j5Oy1sigfyeQ j4Oy1sigfyeQ j5Oigy5f j4Oigy5f j5ctHfycj4 j4ctHfycj5 j5ctogrfy j4ctogrfy j5ctocj4 j4ctocj5 j5cj4ctHfy j4cj5ctHfy j5cmkfycj4cmkfy j4cmkfycj5cmkfy mkfyeQgrj5 mkfyeQgrj4 mkfyeQgrj52eJor mkfyeQgrj42eJor tHfyeQgrj5 tHfyeQgrj4 tHmkfyeQgrj5 tHmkfyeQgrj4 togrj5 togrj4 tocj5clL1 tocj4clL1 eBy47j5 eBy47j4 eBy47j52nX j4y4Lj5 j4sQj5 j5kQrlk& j4kQrlk& j5kQrlk&cmkfy j4kQrlk&cmkfy ycXy22 yUvy22 ycXy22grfyeQ yUvy22grfyeQ lL12z0Pc rScy1slL1 racy1slL1 rScy1sigfyeQ racy1sigfyeQ rSclL1 raclL1 rScigfyeQ racigfyeQ rScpifyeQ racpifyeQ rScigpifyeQ racigpifyeQ eBrS eBra nH2eJ nI2eJ nH2eu1eH nI2eu1eH nH2rM1eH nI2rM1eH nHeYgrfyeQ2eJc nIeYgrfyeQ2eJc nHeYclL1 nIeYclL1 nHeYcgHk8 nIeYcgHk8 nHeYcpifyeQ nIeYcpifyeQ nHeYcigfyeQ nIeYcigfyeQ e3dg9eyk8 " ++
  "e3bg9eyk8 kQnH kQnI kQnHgrfyeQ kQnIgrfyeQ nHcnI nIcnH nHcnH nIcnI nIsQnH nIsQOy3crlkg2nH rEeYxQgE yZp2y21kB #eOp8 zY4 #68 iDdla iDfBla iDevla yGH2ex ehfFj8bwa eBehfFdwa ehfFeBdwa eBehfFeBdwa g2kglMdy8AeYeBeh iDfBla2rO iDevla2nX iDevlaciDfBla eBfBla eBevla eBeWig1 hGeBeWig1 roigyCS2hG#2&p# ehiN2fGc ehiN2fGeH fBla2fGeH th2g4eW th2gHk8 j8ehfFyNoy9E j8ehfF2g4eW j8lpk8 j8y47j5 j8y47j4 tHmkj5grfyeQ tHmkj4grfyeQ j8niyNoy9E gvj8ehfFk8 eBnik8 eNehfF pYeNehfF gKireNR gKjUeNR hAireNR hAjUeNR dbeNR f5eFR gMeFR gEeFR gKireFR gKjUeFR hAireFR hAjUeFR dbeFR evfBeFR epR2oPgE epR2oPgM f5R2oPgE f5R2oPgM e32kBf6eF e32lCf6eF e32fAbgJf6eF e32f3dgJf6eF k62df6eF k62bf6eF k62kBf6eF k62lCf6eF kZe3 eFgve3 eNgve3 eFmA3e3 eNmA3e3 eFy4S eNy4S eNyDX eFyDX g4eFyDX eFgvfG eFgFk6 eNgFk6 eFgFrH eNgFrH eF3k6 eF3rH eN3rH eFg4y6d eNg4y6d eFehy6d eNehy6d dR23fG ePf5pN dR2e5eu g2f5y9uR f5oyR2eheW f5oyR2eBeheW f5oyRlMfF f5oyj8kgR f5R2kZsw f5R2j12eheW f5R2j12eBeheW f5oyR2j1 f5oyR2j12eheW f5oyR2j12eBeheW f5RqYhK lnRhpyQ6d lL1cf5R oNgHk8cf5R f5RcoNpifyeQ epRqYj4 epRqYnI f5snR epsnR oNgHk8cepR epRcoNpifyeQ gHk8cf5R f5RcpifyeQ f5RcoNgHk8 epRcoNgHk8 gEhssMR iDmkgKR iDyB9hAR eNgFj7 eF3j7 eN3j7 eFngy4S eNngy4S eZgvfG eZy4K2y4Kor eZfG2fGor eZfG eZe5sq mkgKR2y0wmg yB9hAR2y0wj1 mkgKR2g4j1 yB9hAR2g4j1 mDRhpgEuugKir iDmDRhpgEuugKir f5hsR gMhsR ephsR gEhsR dbhsR evfBhsR gKjUhsR gKirhsR hAirhsR hAjUhsR f5hsrBR gMhsrBR ephsrBR gEhsrBR plhsg9fGR oGhsg9fGR f5hsReQfF gMhsReQfF ephsReQfF gEhsReQfF !2b76 gKjUhsReQfF gKirhsReQfF hAirhsReQfF hAjUhsReQfF f5hsR2eBg4eW gMhsR2eBg4eW ephsR2eBg4eW gEhsR2eBg4eW g4trua ehtrua f5hsRfgephsR gMhsRf5eYgEhsR ephsRfgf5hsR gEhsRf5eYgMhsR f5hsw1pN gMhsw1pN ephsw1pN gEhsw1pN f5eFe5eNR gMeFe5eNR epeFe5eNR gEeFe5eNR oGhsby5HR oGhslCy5HR oGhsdy5HR oGhskBy5HR y4kd y4kb yFVd yFVb eclDpNyOwoG epeFR !2b97 Be0yAOKzUA y23yIjf5nbht y23#K2gMnbht y23yIjepnbht y23zsdgEnbht eFf5nbht eFgMnbht eFepnbht eFgEnbht gEhsR2g2oPf5 gEhsR2g2oPep gMhsR2g2oPf5 gMhsR2g2oPep f5hsR2g2oPgM ephsR2g2oPgM f5hsR2g2oPgE " ++
  "ephsR2g2oPgE eFoTgEOf5R eFoTgEOepR eFoTgMOf5R eFoTgMOepR eFoTf5OgMR eFoTepOgMR eFoTf5OgER eFoTepOgER spRfBd spRfBb spRevd spRevb spRdev spRbev spRdfB spRbfB gMeNRlMfF2g4fF evhtitKujey y4LeNy9t y4LeNOeFy9t y4LeFy9t r7ey2fIhK e5hK e5PhK eFe3u9 eFk6u9 fueFy4S g4eFyYa eFyYa eFgFpgg7u9 eFgFrCg7u9 eFgFoYg7u9 eFgFngg7u9 yXbFeE kBf6eFfG lCf6eFfG fIeclGeFy6D ipfIeclGeFy6D eNeclGy6D ipeNeclGy6D e3y1dlk #i91 ySLe2 y4WFeE y4WFeP y4WFec y4WFej #eN #Fc yvh ziC #Dg #35 eNmU#S0 eFk6iajf yIqfImUyvL zJO zd7 #sd zpz yuk ysy #m8 #Ey df6eFj7 bf6eFj7 j72df6eF j72bf6eF f5oyR2g7y5i gMoyR2g7y5i epoyR2g7y5i gEoyR2g7y5i yR3Fe9 yR3FeE #Nx y1ju3B#la y1ju3B#6G y1ju3B#HF y1ju3By&H y1ju3B#S5 y1ju3B#eS lL12y0#eH #iHB #S9B y2yB #CbB hGbiq ze7#CnB fa50yB7 fa50yBU fa50yJ5 fa50yDM fa50yCX fa50yJW fa50yJf fa50y6X fa50yJd fa50y11 fa50ely11 fa50eI fa50yCV fa50yE1 fa50yEe fa50y41 fa50yFN fa50yFx fa50yGS fa50yH0 fa50yHg fa50yIw fa50yJ1 fa50yD6 fa50yDW fa50yYu fa50k9 fa50yHT fa50xv fa50y2j fa50i0 fa50t2 fa50yAg fa50yJR fa50ycofQ fa50k# fa503mC fa503mC2j1 fa50l# fa50y0&3mC fa50q7mC fa50y0&q7mC fa50x0 fa50y12 fa50yc2 fa50yemK fa50yUxy41 fa50yOay2j fa30yB7 fa30yBU fa30yJ5 fa30yDM fa30yCX fa30yJW fa30yJf fa30y6X fa30yJd fa30y11 fa30ely11 fa30eI fa30yCV fa30yE1 fa30yEe fa30y41 fa30yFN fa30yFx fa30yGS fa30yH0 fa30yHg fa30yIw fa30yJ1 fa30yD6 fa30yDW fa30yYu fa30k9 fa30yHT fa30xv fa30y2j fa30i0 fa30t2 fa30yAg fa30yJR fa30ycofQ fa30k# fa303mC fa303mC2j1 fa30l# fa30y0&3mC fa30q7mC fa30y0&q7mC fa30x0 fa30y12 fa30yc2 fa30yemK fa30yUxy41 fa30yOay2j 750f72eBfF 730f72eBfF 750f72eagH 750hI2eW 750ew2j1 730K2eW 730gT2gJeW 750gi2kq 730gi2kq 750gV2kq 730gV2kq 750gs2kq 730gs2kq 750i9 750g82eg 750fuK 750fui9 730gZ2beg 750hc2eg 730hc2eg 730gZ2ny 750f6gi 730f6gi 730#b9nS 730eG2yY8 730fuew2j1 730eD2fVftor 7035fueG 7ky30hh eL05gZ 750ex2y1#j1 750gs2y1#j1 er50yMg er30yMg er50yfg er30yfg er50n& er30n& er50yPS er30yPS er50y6a er30y6a er50ych er30ych er50yAn er30yAn er50ySb er30ySb er50ye7 er30ye7 er50yTE er30yTE er50y7Y er30y7Y er50yUy " ++
  "er30yUy er50mH er30mH er50lX er30lX er50y7k er30y7k er50eD er30eD er50jh er30jh er50nC er30nC er50yHW er30yHW er50pJ er30pJ er50y29 er30y29 er50sV er30sV er50y7b er30y7b er50pa er30pa er50y8e er30y8e er50vHfE er30vHfE er50aerkJ er30aerkJ er50uGy6a er30uGy6a er50vHy7Y er30vHy7Y er50vHlX er30vHlX er50uGlX er30uGlX er50aery8e er30aery8e er50y1k er30y1k er50rAwD er30rAwD er50aerwD er30aerwD er50aeroq er30aeroq er50yMcy18 er30yMcy18 er50vHy0x er30vHy0x er50aery0x er30aery0x er50aerfQ er30aerfQ er50yUifQ er30yUifQ er50aerySg er30aerySg er50aerx8 er30aerx8 er50aery0l er30aery0l er50aeryQB er30aeryQB er50aerxa er30aerxa er50as4xa er30as4xa er50as4y8P er30as4y8P er50as4qv er30as4qv er50as4yJA er30as4yJA erBy15 erBmHnC erBjhnC erB#Xm erBpJnC erBy7bnC erBxayHW er50uGwD er30uGwD er50uGy0l er30uGy0l erVlXc erVycpyvZ erVycpyV4 er50yO8y18 er30yO8y18 !2cf9 eras4jgi1 eras4yCRmZe2 eras4zkYmZe2 eras4yJ6y0U ergae9f6 erjgi1 erz&iy0U e#30lB e#30y5o e#30x3 e#30y6S e#30jK e#30yAW e#30y5X e#30yA4 e#30it e#30y16 e#30y7t e#30o5 e#30y43 e#30ia e#30y8k e#30yAo e#30y1g e#30y1l e#30xl e#30uy e#30y8r e#30y7a e#30y70 e#30y4d e#30lm e#30y64 e#30qi e#30y3a e#30y68 e#30y61 e#30yAd e#30y7T e#30y77 e#30ki e#30y3R e#30nL e#30y0t e#30y7E !2d27 e#30y2M !2d2d e#30y00 !2d30 jA0gB jA0#pp jA0#pq jA0#pz jA0#p# jA0yNjyMNyJP jA0yJP jA0#ps jA0#pv jA0#pt jA0#pu jA0#qc jA0#px jA0yJQ jA0wYyJQ jA0#q2 jA0yAf jA0yNjyMNyAf jA0wYyAf jA0#q0 jA0y2K jA0ygH jA0wYygH jA0ygL jA0wYygL jA09 jA0yJS jA0ytMyJS jA0wYyJS jA0#q3 jA0ygI jA0ygJ jA0wY#p& jA0wYsK jA0ygK jA0k# jA0ygM jA0#q7 jA0yJO jA0wYyJO jA0ywGyJO jA0#q8 jA0#qA jA0#q9 jA0v0 jA0#qB jA0#pr jA0#qC jA0#qE jA0#qF jA0ygO jA0ygP jA0#bbygP jA0#qJ jA0q3 jA0l# !2d6f jAeL0zrIe2 jAnDe2 !2d7f jAh9xA Y4ztr Y4z&B Y4#KQ Y4#W4 Y4#U0 Y4y&d Y4#dp Y4z5& Y4#60 Y4#88 Y4lUy4F Y4#tM Y4zN# Y4zLx Y4zm0 Y4#cf Y4z3R Y4#Df Y4#Ee Y4zaq Y4zau Y4zat Y4zas !2da0 Y4kx Y4yHu Y4yHs Y4#Wx Y4#X9 Y4ycw Y4yHt !2da8 Y4z1# Y4z2H Y4z2F Y4z1& Y4z21 Y4z20 Y4z2G !2db0 Y4yAq Y4yhB Y4yh8 Y4#tk Y4#to Y4yh7 Y4yhA !2db8 " ++
  "Y4z22 Y4z2E Y4z2C Y4z23 Y4z24 Y4yBe Y4z2D !2dc0 Y4#HU Y4#He Y4#HY Y4#HV Y4#HX Y4#HW Y4#HZ !2dc8 Y4yEO Y4zqw Y4zqt Y4zqq Y4y7q Y4zqs Y4zqv !2dd0 Y4ygE Y4#pU Y4#pM Y4#pK Y4#pL Y4ygF Y4#pN !2dd8 Y4zcc Y4zck Y4zci Y4zcd Y4zcg Y4zcf Y4zcj !2de0 Ve10q6 Ve10ph Ve10p5 Ve10nz Ve10q5 Ve10oD Ve10eo Ve10nn Ve10p0 Ve10jK Ve10eD Ve10k9 Ve10qE Ve10sU Ve10lI Ve10fQ Ve10r0 Ve10nZ Ve10i0 Ve10yHM Ve10x0 Ve10zUp Ve10K Ve10pW Ve10yCU Ve10yF8y2A Ve10v0 Ve10k# Ve10poK Ve10iHmC Ve10q7mC Ve10poq7mC biqy1xvo biqkZy1xvo dy1xfP by1xfP dkZy1xfP bkZy1xfP lfyTWvo lfkZyTWvo kZyInvo dyInfP byInfP lfe3 dlfyYjfP blfyYjfP zTtzIs yG7 yRXyG7 hGyRXyG7 ziE kZ#AE gEyMo gMyMo kZngiq eBpZrw idy3X y1YyBP rw2hu gH2ftc dfVyZBfP bfVyZBfP gH2eJc gH2eJeH dehfF2y95 behfF2y95 kBdf6fP kBbf6fP lCdf6fP lCbf6fP dove8fP bove8fP deBkF beBkF eEfZfge9eJgS e9eJfgeEfZgS ezeceJgS ejeJe2 hGmZe2 ehgH ftm& nvnDeaeJ fui& lfeJ lfi& fusA wo2dySN wo2bySN fuwo kBf6l81 #gNkg #clkg #Xqjgi1 ehfDfZ y2IehiN z1e eBrw hGi& eBzuLmKe2 kg2dyJ2 eByI9e2 idfVuZ idfVuZ2uZc fVuZ fVuZ2eJ eB#XZi& kZni j8wo yExi& #CQe2 #FtzUCe2 zIryJ6y0U jfyZE2byPA jfyZE2dyPA yeH15rF yExn4e2 yExmZe2 de3fP2eW be3fP2eW de3fP2eBeW be3fP2eBeW kBf6dkF kBf6bkF lCf6dkF lCf6bkF pZrw !2e80 eke6ul eke6yBl eke6uoe9 eke6uoeE eke6uoeP eke6o7 eke6ey eke6yIG eke6y1Be9 eke6y1BeE eke6yQ9 eke6yHD eke63e9 eke63eE eke6y3pe9 eke6y3peE eke6y3peP eke6y3pec eke6y9q eke6yIU eke6yHhe9 eke6yHheE eke6mGe9 eke6mGeE eke6m4 eke6yGt !2e9b eke6z3U eke6q0 eke6mU eke6yPp eke6yX5 eke6z44 eke6r1e9 eke6r1eE eke6sX eke6yGCe9 eke6yGCeE eke6y4vf6txyeo eke6y2o eke6y0V eke6yTd eke6yBNeYyBn eke6tN eke6y9se9 eke6y9seE eke6yBC eke6yHV eke6nxyHV eke6y1Re9 eke6y1ReE eke6y1ReP eke6y1Rec eke6yWh eke6yHN eke6y9A eke6yRC eke6a eke6y0He9 eke6y0HeE eke6y89 eke6yX4 eke6y73e9 eke6y73eE eke6y73eP eke6yA8 eke6yBo eke6jUe9 eke6jUeE eke6nxxX eke6y4vld eke6ld eke6nxxe eke6nxly eke6y6t eke6nxyOZ eke6y4vy5M eke6y5Me9 eke6y5MeE eke6yOx eke6nxy72 eke6g2e9 eke6g2eE eke6nxg2 eke6nxyRr eke6yFCe9 eke6yFCeE eke6xW eke6vA eke6nxydnyEV " ++
  "eke6nxo3 eke6nxt0 eke6nxyC& eke6y0Ze9 eke6y0ZeE eke6y0ZeP eke6nxy0Z eke6mg eke6nxuV eke6y5u eke6yDJ eke6nxtP eke6nxy5t eke6nxtm eke6y4vyJE eke6y4vy5S eke6nxyD7 eke6y7Ry0h eke6nxy0h eke6y7RyAE eke6nxyAE eke6y7RvL eke6nxvL eke6y5F eke6y7Ry5F eke6nxy5F !2f00 ede6e9 ede6iN ede6eJ ede6p# ede6uo ede6eg ede6eE ede6yVC ede6o5 ede6zsg ede6yQ# ede6fC ede6fBey ede6yC0 ede6va ede6yIG ede6g9ey ede6y1B ede6y1e ede6#oH ede6yHp ede6bg9ey ede6zejyCg ede6hU ede6yQ9 ede6yHD ede6yBl ede6#FR ede6ytF ede6jz ede6yCg ede6pm ede6#Nc ede6qo ede6qo#Vr ede6zV6 ede6q7 ede6we ede6yBh ede6#KZ ede6zkQ ede63 ede6y3p ede6zIu ede6#Wp ede6vr ede6#KG ede6yJJ ede6#Aj ede6yf4 ede6yCZ ede6iDyIU ede6kZyBl ede6g2#YA ede6eEuT ede6#U4 ede6y0E ede6yHh ede6z09 ede6yHw ede6mG ede6zdH ede6yQG ede6m4 ede6yBP ede6yGt ede6fr ede6zNT ede6yB5 ede6e3 ede6ig ede6q0 ede6ybY ede6mU ede6tx ede6zrL ede6i1 ede6yPp ede6#nR ede6oVig ede6z6I ede6yRf ede6oS ede6yc& ede6r1 ede6sX ede6z4C ede6yRH ede6eBhK ede6f6txyeo ede6ycT ede6zWo ede6y2o ede6y0V ede6#FT ede6yTd ede6yWd ede6fL ede6ydI ede6ztG ede6#ia ede6yRK ede6yBNeYyBn ede6#Uz ede6kZyIL ede6eN ede6#VZ ede6nm ede6tN ede6ycl ede6R ede6yHz ede6y9s ede6yeX ede6zc1 ede6z1y ede6#Xd ede6yBC ede6y1i ede6yHV ede6yTe ede6y1R ede6yHN ede6y6n ede6a ede6O ede6#EV ede6ww ede6y0H ede6y89 ede6z#v ede6ybf ede6yvH ede6yX4 ede6pf ede6#Aw ede6yO6 ede6#Xx ede6z6A ede6y73 ede6yA8 ede6zki ede6yO2 ede6y5MyCg ede6yBo ede6jU ede6xX ede6ld ede6xe ede6#k7 ede6y#c ede6y8u ede6yNS ede6ly ede6ou ede6#LK ede6y6t ede6yO7 ede6yOZ ede6y&T ede6z&h ede6y5M ede6yOx ede6yAa ede6zNe ede6#lb ede6y72 ede6g2 ede6yRr ede6yFC ede6#Ve ede6iDq1y5t ede6xW ede6vA ede6#oL ede6f0 ede6yEV ede6ydnyEV ede6zsb ede6pd ede6o3 ede6t0 ede6yC& ede6y0Z ede6mg ede6zYF ede6uV ede6y5u ede6y1& ede6x7 ede6zXE ede6#MnyAa ede6yOb ede6yDJ ede6tP ede6y5t ede6tm ede6yCL ede6yJE ede6ze9 ede6y5S ede6z#q ede6eF ede6zUJ ede6yD7 ede6#ef ede6y0W ede6y9B ede6sk ede6y0h ede6yAE ede6vL ede6y5F ede6yRR !2ff0 fsrngodeQb fsrngoceQeH fsrngodeQeaOb " ++
  "fsrngoceQeaOeH fsrngojgxg fsrngoxglMc fsrngoxglMeH fsrngoxglMd fsrngoxglMfAd fsrngoxglMfAb fsrngoxglMf3d fsrngoyG1 !3000 fso9 fsi& fsjgi1 zNhe2 vbzkZyczB fsuYe2 fsy2le2 fsTgx diqfP biqfP deBiqfP beBiqfP dlDfP blDfP deNlDfP beNlDfP deFvgfP beFvgfP y8ye2 zaQe2 dnJlyfP bnJlyfP deNvgfP beNvgfP deNnJlyfP beNnJlyfP deNe3fP beNe3fP lnkg hGeBs8mKe2 eBs8mKe2 fVeBs8mKe2 y8ye2f0 rvhoe9 rvhoeE rvhoeP rvhoec rvhoej rvhofD rvhofO rvhofC rvhofW fsyV8fXe2 fsqRfXe2 fsyCOfXe2 fszUVfXe2 ShaeJfXe2 SeBeJfXe2 s#kg ehy3fule2 ehy3ful2t&pde2 ehy3fule2fAf6 ehy3ful2t&pde2fAf6 ehy3fule2f3f6 e5y8ye2 fsiRiNyCsnDB rvhohU rvhoj& rvhomL ehfsuYe2 zyee2 yGAytxe2 fseRlk fsf6p1o9 !3041 gp03K gp0K gp03eI gp0eI gp03e8 gp0e8 gp03eG gp0eG gp03eD gp0eD gp0eo gp0gR gp0ne gp0nc gp0o2 gp0pS gp0oK gp0tT gp0nO gp0qo gp0gG gp0jt gp0nr gp0t3 gp0oA gp0sO gp0o8 gp0oD gp0nG gp0sN gp0gC gp0gN gp0ow gp0oo gp03nW gp0nW gp0op gp0lI gp0nz gp0eQ gp0oV gp0g5 gp0lX gp0lw gp0lW gp0ku gp0fQ gp0gu gp0fl gp0lE gp0om gp0jh gp0qp gp0n2 gp0rU gp0ki gp0q6 gp0k9 gp0mt gp0rk gp0pD gp0g0 gp0mH gp0ks gp0le gp0o6 gp03gB gp0gB gp03k# gp0k# gp03l# gp0l# gp0fq gp0pu gp0nq gp0pE gp0nC gp03i7 gp0i7 gp0oC gp0nL gp0nk gp0fn gp0xx gp03eo gp03oK !3099 VxCt&pde2 VxCyHGpde2 xCt&pde2 xCyHGpde2 gpuYe2 gpt&uYe2 gpm0#r2 xCeBrw eV03K eV0K eV03eI eV0eI eV03e8 eV0e8 eV03eG eV0eG eV03eD eV0eD eV0eo eV0gR eV0ne eV0nc eV0o2 eV0pS eV0oK eV0tT eV0nO eV0qo eV0gG eV0jt eV0nr eV0t3 eV0oA eV0sO eV0o8 eV0oD eV0nG eV0sN eV0gC eV0gN eV0ow eV0oo eV03nW eV0nW eV0op eV0lI eV0nz eV0eQ eV0oV eV0g5 eV0lX eV0lw eV0lW eV0ku eV0fQ eV0gu eV0fl eV0lE eV0om eV0jh eV0qp eV0n2 eV0rU eV0ki eV0q6 eV0k9 eV0mt eV0rk eV0pD eV0g0 eV0mH eV0ks eV0le eV0o6 eV03gB eV0gB eV03k# eV0k# eV03l# eV0l# eV0fq eV0pu eV0nq eV0pE eV0nC eV03i7 eV0i7 eV0oC eV0nL eV0nk eV0fn eV0xx eV03eo eV03oK eV0jT eV0u# eV0ph eV0t# eVeaeJ xCya4pde2 eVuYe2 eVt&uYe2 eVm0yUT !3105 hx0eM hx0hI hx0g8 hx0iB hx0gg hx0gT hx0fn hx0f7 hx0gP hx0gV hx0gi hx0hh hx0j6 hx0hK hx0#sg hx0yOl hx0xY hx0ew hx0gs hx0hB hx0ex hx0K hx0eD " ++
  "hx0eG hx0tL hx0hY hx0uI hx0hw hx0v& hx0lB hx0jK hx0r6 hx0rr hx0qE hx0eI hx0e8 hx0y3Z hx0gZ hx0oc hx0zbg hx0yDi hx0eD2eJc hx0y4B !3131 S0vf S0y9x S0yEE S0vv S0y8Q S0y8R S0wV S0y9# S0w8 S0y9H S0y9I S0y9J S0y9K S0yGy S0yGx S0y9G S0vq S0w5 S0y9y S0y8t S0wF S0y9z S0uW S0uC S0y9w S0vD S0ve S0wR S0w3 S0vY S0K S0lj S0gB S0y5Q S0y31 S0eG S0yJT S0q3 S0eD S0i7 S0yJ9 S0kS S0l# S0e8 S0yJD S0nL S0oC S0k# S0uM S09 S0eI SuN S0yHr S0yFd S0yFc S0yXw S0yay S0yGz S0ya& S0ya# S0yb1 S0yF2 S0yF3 S0yWr S0yE2 S0yZe S0yGN S0yZg S0yGM S0yGL S0yZh S0yE4 S0yTy S0yHY S0ycL S0yHa S0yHZ S0yHX S0yG6 S0yHq S0yJV S0ygS S0ygR S0yE3 S0ycu S0yJU S0ygX S0ygY S0ygW S0yge S0ygd S0ygc S0yM& S0yv0 !3190 fsoiztbe2 fsoioNe2 fsoie9e2 fsoieEe2 fsoiePe2 fsoiece2 fsoikBe2 fsoieae2 fsoilCe2 fsoiuOe2 fsoiuoe2 fsoirbe2 fsoiy6we2 fsoiy7Be2 fsoipme2 fsoio5e2 hx0n2 hx0t3 hx0vc hx0pS hx0ka hx0yCh hx0k2 hx0yYm hx0y3Y hx0yuS hx0zkf hx0yfU hx0qH hx0#3P hx0ytV hx0yv# hx0t5 hx0rN hx0yYl hx0zkg hxeA0hI hxeA0gT hxeA0gV hxeA0gi hx0zav hx0yEa hx0yh6 hxeA0gP hx0zcY hx0yEL hx0kS hx0re ekeWgT ekeW#nc ekeW#ou ekeWz0j ekeWydF ekeWziK ekeWziG ekeWy7G ekeWziJ ekeW#aA ekeWziH ekeWziL ekeWzhR ekeWziI ekeWziM ekeWfn ekeWgi ekeWex ekeWhI ekeW#WN ekeWgg ekeWyTC ekeWySk ekeW#a1 ekeW#ZK ekeWyHv ekeW#TN ekeW#Ct ekeW#GJ ekeW#dh ekeW#aB ekeW#ZD ekeWziB ekeWziN ekeW#DS ekeWj6 !31f0 eV03o2 eV03nr eV03oA eV03eQ eV03lw eV03fQ eV03lE eV03qp eV03ki eV03mt eV03ks eV03fq eV03pu eV03nq eV03pE eV03nC fRSvf fRSvv fRSwV fRSw8 fRSvq fRSw5 fRSwF fRSuW fRSuC fRSvD fRSve fRSwR fRSw3 fRSvY fRSvfK fRSvvK fRSwVK fRSw8K fRSvqK fRSw5K fRSwFK fRSuWK fRSuCK fRSvDK fRSveK fRSwRK fRSw3K fRSvYK fRSuCe8 fRy3lgo#Aa fRy3lgoeDqp !3220 fRgze9 fRgzeE fRgzeP fRgzec fRgzej fRgzfD fRgzfO fRgzfC fRgzfW fRgzhU fRgzmU fRgzsX fRgzr1 fRgzyJI fRgzyWj fRgzpm fRgzq0 fRgzyHy fRgzySc fRgzycb fRgzvu fRgzycm fRgzyRM fRgzyP1 fRgzyUk fRgz#JJ fRgzyBb fRgzyd3 fRgzydD fRgzyQ& fRgzyao fRgzyMk fRgzzX6 fRgzpF fRgzybf fRgzyae e5gzmZ e5gzzoo e5gzyHC e5gzyUT e5ThUiaeFe3 e5Tj&iaeFe3 e5TmLiaeFe3 " ++
  "e5TmqiaeFe3 e5TlTiaeFe3 e5TpciaeFe3 e5TlhiaeFe3 e5TqBiaeFe3 yZC1 e5Tj&e9 e5Tj&eE e5Tj&eP e5Tj&ec e5Tj&ej e5Tj&fD e5Tj&fO e5Tj&fC e5Tj&fW e5TmL e5TmLe9 e5TmLeE e5TmLeP e5TmLec e5TmLej e5Svf e5Svv e5SwV e5Sw8 e5Svq e5Sw5 e5SwF e5SuW e5SuC e5SvD e5Sve e5SwR e5Sw3 e5SvY e5SvfK e5SvvK e5SwVK e5Sw8K e5SvqK e5Sw5K e5SwFK e5SuWK e5SuCK e5SvDK e5SveK e5SwRK e5Sw3K e5SvYK e5y3lgoz2j e5y3lgozmB e5SuWe8 y3lyczB e5gze9 e5gzeE e5gzeP e5gzec e5gzej e5gzfD e5gzfO e5gzfC e5gzfW e5gzhU e5gzmU e5gzsX e5gzr1 e5gzyJI e5gzyWj e5gzpm e5gzq0 e5gzyHy e5gzySc e5gzycb e5gzvu e5gzycm e5gzyRM e5gzyP1 e5gzyUk e5gz#Nv e5gztd e5gzy0j e5gz#Yq e5gzzV9 e5gzya2 e5gzyvv e5gzzl4 e5gzpF e5gzzIn e5gzzIv e5gzfc e5gzie e5gzfV e5gzd e5gzb e5gzzzA e5gz#JB e5gzyd3 e5gzydD e5gzyQ& e5gzyao e5gzyMk e5gzy8S e5TmLfD e5TmLfO e5TmLfC e5TmLfW e5Tmq e5Tmqe9 e5TmqeE e5TmqeP e5Tmqec e5Tmqej e5TmqfD e5TmqfO e5TmqfC e5TmqfW e5TlT fsiRBe0zlI fsiRBe0zWz fsiRBe0zyO fsiRBe0yuq fsiRBe0yWT fsiRBe0zmE fsiRBe0zmD fsiRBe0yvz fsiRBe0#SA fsiRBe0#AR fsiRBe0#6F fsiRBe0zMB e3ySk e3zUk e3yCl ztSzt81 e5eVK e5eVeI e5eVe8 e5eVeG e5eVeD e5eVeo e5eVne e5eVo2 e5eVoK e5eVnO e5eVgG e5eVnr e5eVoA e5eVo8 e5eVnG e5eVgC e5eVow e5eVnW e5eVlI e5eVeQ e5eVg5 e5eVlX e5eVlw e5eVlW e5eVku e5eVfQ e5eVlE e5eVqp e5eVki e5eVmt e5eVg0 e5eVmH e5eVks e5eVle e5eVo6 e5eVgB e5eVk# e5eVl# e5eVfq e5eVpu e5eVnq e5eVpE e5eVnC e5eVi7 e5eVoC e5eVnL e5eVnk e3y32vu#J7 e3yug e3yvP e3yuV e3yrJ e3zkd e3zkn e3#iM e3zUw e3zTw e3#Am e3#Ap e3zn3 e3znH e3znK e3zZv e3zZq e3zbP e3zbR e3zqx e3zbW e3zor e3zos e3zot e3zou e3zcQ e3zcR e3zqR e3zqO e3znl e3zpi e3zpd e3#Mq e3#NG e3#VK e3#S6 e3#S7 e3zLA e3zMd e3zO9 e3#dx e3#1n e3#6E e3zdG e3#Bb e3#Bc e3yzV e3#Do e3#E4 e3#E3 e3y&L e3zhY e3zha e3z0b e3zhi e3ze4 e3yZS e3#D7 e3zeF e3#DA e3#D2 e3y#j e3#Ek e3y&l e3yDb e3#Er e3zgX e3zgV e3zxz e3zy0 e3zxx e3zyW e3zyF e3z#l e3z## e3z#& e3yE# e3zzF e3zzC e3#pm e3#po e3#rN e3#KE e3#KD e3#LR e3#LW e3#JE e3#JF e3#nL fsiRBe0n8gx fsiRBe0n8e9 fsiRBe0n8eE fsiRBe0n8eP fsiRBe0n8ec fsiRBe0n8ej fsiRBe0n8fD " ++
  "fsiRBe0n8fO fsiRBe0n8fC fsiRBe0n8fW fsiRBe0n8hU fsiRBe0n8rq fsiRBe0n8qa fsiRBe0n8wS fsiRBe0n8vT fsiRBe0n8sW fsiRBe0n8tp fsiRBe0n8wC fsiRBe0n8uJ fsiRBe0n8vw fsiRBe0n8j& fsiRBe0n8yf9 fsiRBe0n8yIz fsiRBe0n8yfA fsiRBe0n8yf8 e3zhQ e3gN e3hw e3fF e3yYw e3#Cs e3yCW e3yCWez e3yCWy2p e3y3Z e3y32vuze3 e3y32vu#Zu e3y32vu#bA e3y32vuzzG e3zIt e3flyu5 e3g5 e3ksK e3g0 e3eo e3znZ e3yEr e3zZ# e3z1R e3zna e3#DR e3#3B e3ksiB e3ksgP e3zzn e3yU7 e3yTC e3zoS e3z#K e3zbG e3#d1 e3ksf7 e3z&3 e3zNq e3zpD e3zXs e3#5k e3ksg8 e3y8F e3yBq e3y7g e3y8Fez e3yBqez e3g8ez e3y7gez e3y8Fy2p e3yBqy2p e3g8y2p e3y7gy2p e3g8fgex e3g8fgexez e3fl e3y3m e3yX8 e3zbz e3y97 e3y97fgex e3y97fgexez e3#Ff e3#6m e3ksex e3#00 e3#GB e3yFp e3ksgZ e3y40 e3zqY e3y40yE# e3#GC e3#7t e3kshc e3yXD e3yEL e3yXDyE# e3gVy8b e3g8y8b e3t5 e3y&x e3yOe e3yOf e3hBfgyU7 e3rm e3yPf e3zcb e3fQ e3y7G e3it e3y7e e3y7g5 e3zp& e3ztp e3ztq e3ztx e3zud e3yEr3 e3z#m e3z&V e3#DT e3#Ed e3#FB e3#FD e3#Ww e3yIA e3#nM e3gZfgg8 e3Kfgg8 fsiRBe0lse9 fsiRBe0lseE fsiRBe0lseP fsiRBe0lsec fsiRBe0lsej fsiRBe0lsfD fsiRBe0lsfO fsiRBe0lsfC fsiRBe0lsfW fsiRBe0lshU fsiRBe0lsrq fsiRBe0lsqa fsiRBe0lswS fsiRBe0lsvT fsiRBe0lssW fsiRBe0lstp fsiRBe0lswC fsiRBe0lsuJ fsiRBe0lsvw fsiRBe0lsj& fsiRBe0lsyf9 fsiRBe0lsyIz fsiRBe0lsyfA fsiRBe0lsyf8 fsiRBe0lsyAN fsiRBe0ls#gK fsiRBe0ls#gJ fsiRBe0ls#gH fsiRBe0ls#gI fsiRBe0lsmL fsiRBe0ls#cc e3uR !4dc0 ioe0kUzJ5y7B ioe0kU#Iupm ioe0zNEmnkUy#m ioe0#r4zXw ioe0yfq ioe0zIR ioe0kUyvC ioe0y0vyAB ioe03ydl ioe0#eR ioe0yGD ioe0#Xf ioe0zX1 ioe0y0qyZz ioe0z&H ioe0zUW ioe0yRT ioe0yJJiakUzMA ioe0yuo ioe0zIZ ioe0yNtqY ioe0yDN ioe0#Wfyuh ioe0y4k ioe0zkh ioe0y0qydl ioe0jzy0O ioe0y0qya1 ioe0kUyskr1 ioe0kUz4JsX ioe0zka ioe0zSc ioe0#JT ioe0y0qy1e ioe0#FU ioe0yPceYkUfI ioe0kUyRF ioe0yF# ioe0#AM ioe0zMP ioe0yPr ioe0yDj ioe0z02 ioe0z6GeQyWc ioe0yD9yAB ioe0#G4yfW ioe0#Ax ioe0kU#nW ioe0#JY ioe0kUyOb ioe0kUyvFyIW ioe0kUyU0#Xtvr ioe0zMh ioe0kUzyUzxy ioe0ysj ioe0kU#nB ioe0kUzaLt0 ioe0kUzm6yUp ioe0zNZ ioe0ztR ioe0yTT#fB ioe03ya1 ioe0ytEyBs ioe0y#kyBs !a000 " ++
  "94yDu 94yTa 94eI 94zku 94zjq 94zk2 94pW 94zjp 94mn 94yNF 94K 94yMu 94#iO 94yfV 94#iN 94y8f 94y8g 94eD 94yFy 94y6i 94eG 94t1 94yNs 94y&U 94om 94y&J 94y&B 94y&C 94y&9 94y&A 94yBE 94y#6 94gu 94yzv 94z0U 94z0S 94z0T 94y&o 94ey 94rk 94y&h 94y#v 94q6 94y#t 94tA 94z0h 94n2 94z0W 94z0Z 94u7 94z0n 94z0o 94rl 94z0k 94z0m 94z0l 94yZo 94#EJ 94jh 94yZk 94#E2 94yZb 94#Dt 94#Ci 94#Cp 94fl 94pC 94#Fy 94#Fw 94#Fx 94y8z 94#F8 94pD 94yGV 94yGj 94#G9 94rU 94yaA 94#G3 94#F# 94yaE 94#GI 94#GE 94#GF 94#GH 94#GG 94y#K 94y#L 94yNY 94y#J 94y#H 94y#I 94y#F 94y#G 94y#A 94y#B 94wl 94y#9 94y#R 94y#P 94y#Q 94y#N 94y#O 94yNZ 94y#M 94y#E 94y2Z 94y#D 94yNb 94y#V 94yNa 94y#S 94y#U 94y#T 94y#Y 94y#Z 94y#W 94y#X 94#26 94#27 94#22 94#25 94#24 94yXU 94#23 94#20 94#21 94#1# 94#1& 94#2A 94#2B 94#28 94#29 94#2G 94#2H 94#2C 94#2D 94#2F 94#2E 94#2M 94#2N 94#2I 94#2J 94#2L 94#2K 94zfd 94zfe 94zfY 94zfc 94zfb 94zfZ 94zfa 94zfV 94zfW 94zfT 94zfU 94zfl 94zfj 94zfk 94zfg 94zfh 94ySw 94zff 94zfp 94zfq 94zfi 94zfm 94zfo 94zfn 94zfv 94zfr 94zfs 94zfu 94zft 94yF6 94z&1 94mH 94z#y 94z#g 94z#V 94z#W 94zyf 94zyl 94g0 94y3t 94#0N 94#0O 94#0K 94#0M 94z&m 94z&v 94o6 94yX3 94zze 94le 94#0X 94#0b 94ks 94#0P 94#0U 94#0R 94#0g 94#0h 94yXI 94#0f 94zXW 94zXZ 94sV 94zXO 94zWt 94yCr 94kh 94zWp 94yRa 94sY 94zY1 94zYW 94zYX 94uQ 94zYT 94zYU 94yRf 94zYc 94zYd 94zYZ 94zYb 94#lk 94#lp 94u# 94#lf 94i6 94#lZ 94#lU 94#lV 94#kH 94#kK 94jT 94#k9 94#m1 94#m4 94t# 94#m0 94#lM 94yfe 94#mB 94#mC 94xx 94#m9 94#mA 94yfp 94#mK 94#mL 94yJ8 94#mH 94#mJ 94#mI 94zNg 94zNn 94oo 94zNR 94zNA 94vI 94zN8 94yPd 94zLe 94gN 94yCE 94zSX 94zSW 94eJ 94zSG 94oV 94zO7 94zMi 94nz 94zMW 94zSg 94zSi 94op 94zSY 94zSd 94zSa 94yeI 94#da 94ow 94oP 94#dE 94y24 94#dD 94ydp 94#bc 94gC 94#bN 94yf2 94#g1 94#f& 94#g0 94yeT 94#eG 94eQ 94kB 94#cI 94lI 94#c6 94#g8 94#gC 94nW 94yf3 94#g7 94y28 94zLv 94zLw 94yPm 94zLu 94zLt 94zLr 94zLs 94zLi 94zLj 94jp 94zLh 94zM1 94zL& 94zM0 94zLz 94zL# 94yCJ 94zLy 94zLm 94yPj 94zLl 94zM4 94zM5 94yPn 94zM2 94zM3 94yPo 94#2f 94#2g 94yFR 94#2d 94#2c " ++
  "94#2b 94#2S 94#2T 94y1Q 94yFP 94#2k 94#2l 94yFS 94#2j 94#2Y 94y8M 94#2U 94#2q 94#2r 94y8N 94#2n 94#2p 94#2o 94zg7 94zg8 94zg1 94zg6 94zg4 94zg5 94zg2 94zg3 94zfx 94zfz 94yDZ 94zfw 94zgE 94zgD 94zgA 94zgB 94zg9 94zg0 94zf# 94zf& 94zgF 94#4n 94#4p 94lX 94#4k 94#4X 94#4R 94#4S 94#1w 94g5 94#1q 94#7m 94#7k 94#7l 94ig 94#6I 94ku 94#6A 94#39 94lW 94#33 94yYK 94#7s 94lw 94#7n 94#7p 94#7o 94zf8 94zf9 94yDY 94zf7 94zf6 94zf4 94zf5 94ze# 94zf0 94ySv 94zez 94zfG 94zfE 94zfF 94zfC 94zfA 94zfB 94zf3 94zf1 94zf2 94zfK 94zfL 94zfD 94zfH 94zfJ 94zfI 94zfQ 94zfR 94zfM 94zfN 94zfP 94zfO 94ztg 94ztj 94ij 94y7z 94ztE 94ztF 94yVD 94ztD 94zsJ 94zsQ 94g1 94yER 94zuV 94zuW 94zuT 94zuU 94zuF 94zuM 94oa 94zuA 94zs& 94jx 94zst 94zub 94zuc 94nA 94zuX 94zuZ 94zuY 94zuk 94zul 94yEj 94zui 94zuj 94yVa 94zbY 94zbZ 94nc 94zbS 94zbL 94zbM 94zbJ 94zbK 94zZx 94zZz 94gR 94y0m 94zcN 94zcO 94zcL 94zcM 94ySG 94zby 94qo 94zbs 94zaP 94zaR 94tT 94yR& 94zcV 94zcW 94pS 94zcP 94zcU 94y76 94yUI 94zo& 94ne 94yUH 94zoi 94zof 94zoh 94znM 94znY 94eo 94yTw 94zqK 94zqH 94yEK 94zpj 94zpn 94nO 94zpf 94xE 94zo7 94oK 94znt 94y7m 94zqW 94o2 94zqL 94zqS 94os 94zae 94zaf 94yS2 94zad 94zab 94zac 94zaV 94zaW 94y0n 94zaU 94zaj 94zak 94yS6 94zai 94zag 94zah 94yS3 94yS4 94zaZ 94zaa 94yDH 94zaY 94zao 94zap 94yS5 94zal 94zan 94zam 94z#6 94z#5 94zzq 94zzr 94zzo 94zzp 94z#D 94z#B 94z#C 94z#8 94z#9 94qN 94z#7 94z#4 94z#2 94z#3 94z#H 94z#I 94z#A 94z#E 94z#G 94z#F 94yT7 94zi4 94zh# 94zi3 94zi1 94zi2 94zh& 94zi0 94zhv 94zhw 94zht 94zhu 94zi9 94ziA 94yT9 94zi8 94zi6 94zi7 94zi5 94yT8 94zhz 94zhx 94zhy 94#3k 94#3i 94#3j 94#3J 94#3K 94hv 94#3H 94#49 94#4A 94#48 94#40 94#41 94xO 94yXs 94#3O 94yXg 94#3M 94ySt 94zep 94y3R 94x8 94zdh 94fQ 94zdX 94zhg 94zhh 94zhe 94zhf 94y3T 94zhO 94mt 94zgZ 94zeG 94ki 94zeA 94#nJ 94yfw 94i7 94yfs 94#oT 94ygA 94#oS 94#oG 94nk 94#o8 94#nb 94nL 94#nY 94#tJ 94#tK 94t3 94#tG 94#tC 94#tA 94#tB 94#sV 94#sX 94jt 94#sR 94#tX 94#tV 94#tW 94yh3 94#tP 94sN 94#tO 94#sf 94oD 94#sc 94#tZ 94#ta 94sO 94yh4 94#tY 94yh5 94#ti " ++
  "94#tj 94yh6 94#tf 94#th 94#tg 94z42 94z45 94y67 94yOv 94z3u 94z3y 94z3s 94z3t 94r9 94z1z 94i3 94y5& 94zJM 94zJL 94yPF 94zIx 94zJ1 94rm 94zIl 94z2d 94u8 94z2Y 94yC8 94zJX 94yC5 94y2q 94zJT 94zJP 94yPO 94zJh 94yPL 94yPN 94zJg 94zJe 94#tv 94#tw 94yh8 94#tu 94yh9 94#tt 94#tr 94#ts 94#tm 94#tn 94yAq 94#tl 94#ty 94yhA 94#tx 94#tq 94yh7 94#tp 94#u2 94yhB 94#t& 94#u1 94#u0 94#u8 94#u9 94#u3 94#u5 94#u7 94#u6 94#8Y 94#8Z 94#8T 94#8X 94#8W 94#8U 94#8V 94#8O 94#8P 94yFu 94#8M 94#8f 94#8e 94#8b 94#8a 94#8S 94#8Q 94#8j 94#8c 94yYY 94#8i 94#8h 94#8o 94#8p 94#8k 94#8l 94#8n 94#8m 94#VN 94fD 94nr 94#VJ 94#V2 94#U& 94#V1 94yH8 94#NU 94gG 94ybV 94#Yx 94#Yv 94#Yw 94yHl 94#WL 94nG 94#WE 94#SN 94o8 94#S8 94#Z7 94#Z9 94oA 94#Yy 94#Z4 94yA0 94#Z& 94#a0 94#ZL 94#Zv 94#Z# 94#Zw 94#XI 94#XJ 94yHs 94#XH 94#XG 94#XE 94#XF 94#X7 94#X8 94kx 94#X6 94#XL 94#XM 94yHt 94#XK 94#XB 94ycw 94#XA 94#XO 94#XP 94yHu 94#XN 94#XU 94#XV 94#XQ 94#XR 94#XT 94#XS 94#sk 94#sl 94oE 94#sj 94#sy 94#sw 94#sx 94#su 94#sv 94yJg 94#st 94#so 94#sp 94q5 94#sn 94#t0 94#t1 94yJh 94#sz 94#s& 94#s# 94#t7 94#t8 94#t3 94#t4 94#t6 94#t5 94yOo 94z2s 94ic 94z2n 94z3e 94z3f 94z3c 94z3d 94z3X 94z3Y 94sR 94z3V 94z36 94z37 94nZ 94z30 94z3j 94y66 94z3g 94z3i 94z3h 94z3q 94z3r 94z3m 94z3n 94z3p 94z3o 94#Kj 94oe 94#Kt 94#Ks 94#Ko 94#Kp 94ybE 94#Kn 94#Kl 94#Km 94ybD 94#Kk 94#Kx 94#Ky 94#Kr 94#Ku 94#Kw 94#Kv 94#L1 94#L2 94#Kz 94#K# 94#L0 94#K& 94#6P 94#6Q 94yFk 94#6O 94#6Y 94#6W 94#6X 94#6U 94#6V 94#6R 94#6S 94#6e 94#6f 94#6Z 94#6b 94#6d 94#6c 94#6k 94#6l 94#6g 94#6h 94#6j 94#6i 94ybs 94#Te 94i0 94#TY 94#Uc 94#Ua 94#Ub 94#UH 94#UL 94ss 94ybz 94ybu 94#Tu 94kI 94#Tl 94#Uf 94#Uh 94qX 94#Ud 94#Ue 94yc3 94#Up 94#Uq 94yc9 94#Um 94#Uo 94#Un 94y9B 94#Ii 94fq 94yGt 94#LP 94#LN 94#LO 94#Kf 94#Ki 94nC 94#Kc 94#JZ 94pE 94#JG 94#LV 94#LX 94nq 94#LQ 94#LT 94#LS 94#Lj 94#Lk 94ybJ 94#Lg 94#Li 94#Lh 94zlf 94zlg 94vc 94zle 94zlb 94zlc 94zlZ 94zla 94zmI 94zmJ 94zmG 94zmH 94vd 94zm5 94sb 94zm3 94zmO 94zmQ 94xB 94zmK 94zmN 94zmM 94zmV 94zmW 94zmR 94zmS 94zmU " ++
  "94zmT 94#Gy 94#Gz 94y4e 94#Gx 94#Gu 94#Gv 94#Gs 94#Gt 94#HI 94#HJ 94yGq 94#HH 94yaJ 94#H2 94y94 94#H0 94#HO 94#HQ 94y4f 94#HK 94#HM 94#HL 94#Hd 94#Hf 94#HT 94#Ha 94#Hc 94#Hb 94zln 94zlo 94yTi 94zlm 94zlk 94zll 94yTj 94zlj 94zlu 94zls 94zlt 94zlq 94zlr 94yTk 94zlp 94yTm 94zly 94yTl 94zlv 94zlx 94zlw 94zl# 94zl& 94yTn 94zlz 94#51 94#52 94y1T 94#50 94#4# 94#4& 94#4x 94#4z 94#57 94#56 94#54 94#55 94yY1 94#53 94#5C 94yFh 94#58 94#5B 94#5A 94#5H 94#5I 94#5D 94#5E 94#5G 94#5F 94yYW 94#86 94qv 94yYV 94#81 94#82 94#7& 94#80 94#8H 94#8F 94#8G 94#8B 94#8C 94uf 94yYX 94#8J 94#8K 94yFt 94#8I 94#p1 94#p2 94qd 94#o& 94#oz 94#o# 94#ox 94#oy 94#pC 94#pB 94#p7 94#p8 94ygC 94#p4 94#pT 94#pV 94#pJ 94#pQ 94#pS 94#pR 94yJX 94#qn 949 94#qm 94#qh 94#qi 94ygV 94#qg 94#rU 94#rV 94#rS 94ygi 94y5V 94#r7 94l# 94#r1 94yAk 94#ra 94k# 94#rW 94#rY 94#rX 94#rg 94#rh 94yJc 94#rd 94#rf 94#re !a490 9e6yaJ 9e6ij 9e6yUI 9e6yYV 9e6yPN 9e6yHs 9e6yS4 9e6yR& 9e6mH 9e6yT7 9e6yVa 9e6yNb 9e6yX3 9e6l# 9e6yGj 9e6yT9 9e6ydp 9e6gR 9e6yh4 9e6yPO 9e6yPo 9e6u7 9e6yS6 9e6yYX 9e6nW 9e6yFy 9e6yTm 9e6yh3 9e6yaE 9e6ySw 9e6yJX 9e6yfp 9e6yc9 9e6yfe 9e6jt 9e6sb 9e6yYY 9e6yTn 9e6ySG 9e6yTj 9e6nk 9e6op 9e6yc3 9e6yVD 9e6yPL 9e6yPF 9e6yOv 9e6yT8 9e6ybs 9e6yh5 9e6ybz 9e6nZ 9e6yh9 9e6yXU 9e6oK !a4d0 jy0gu jy0fl jy0jS jy0gN jy0gC jy0j2 jy0gR jy0eo jy0if jy0hz jy0i3 jy0ic jy0rD jy0mM jy0qZ jy0g0 jy0g5 jy0g1 jy0gG jy0oE jy0jt jy0hv jy0fQ jy0qc jy0uU jy0kh jy0i7 jy0i0 jy0gB jy0k7 jy0K jy0lj jy0eG jy0uM jy0eI jy0eD jy0e8 jy0nu jy0yI& jy0kS jy0fXy1Mow jy0fXg5pD jy0fXy1MyPM jy0fXy1Mrk jy0fXy1Mg5 jy0fXy1MzlS jygSi& jygSjgi1 eK4ka eK4zTx eK4y7C eK4yAY eK4#nV eK4ug eK4y#& eK4y09 eK4y87 eK4yUW eK4zzv eK4yRt eK4w& eK4wb eK4y21 eK4y55 eK4zMs eK4zMv eK4y7u eK4y4i eK4y0R eK4yFQ eK4xX eK4y9c eK4y5W eK4yAp eK4yOh eK4y13 eK4y4A eK4y2L eK4yE8 eK4yXj eK4y3F eK4yEy eK4yFT eK4yYT eK4eI eK4it eK4lE eK4ySq eK4oC eK4#nr eK4jh eK4y&0 eK4om eK4yEs eK4yUX eK4zzy eK4yRu eK4sV eK4u# eK4ow eK4xr eK4zM# eK4zMw eK4ij eK4pu eK4oo eK4yFR eK4nr eK4y1p eK4t3 eK4yJe " ++
  "eK4y67 eK4vc eK4y1T eK49 eK4ne eK4yXl eK4nc eK4mH eK4lX eK4qv eK4K eK4lB eK4#3F eK4fQ eK4ySY eK4i7 eK4#n9 eK4fl eK4kP eK4gu eK4y3w eK4y3m eK4zpp eK4yWl eK4yDC eK4kh eK4jT eK4gC eK4j2 eK4k1 eK4zMt eK4g1 eK4fq eK4gN eK4y1Q eK4gG eK4i0 eK4jt eK4oE eK4i3 eK4hz eK4yXz eK4gB eK4eo eK4y16 eK4y48 eK4gR eK4g0 eK4g5 eK4ih eK4k2 eK4#Aq eK4y3S eK4y5P eK4#o7 eK4y4a eK4y&1 eK4yO9 eK4yEv eK4yUY eK4z#0 eK4yRw eK4yD2 eK4yfn eK4y25 eK4yIS eK4zN0 eK4zMy eK4y1I eK4ybB eK4yQF eK4yXW eK4y4x eK4yHR eK4yh2 eK4#ss eK4yB# eK4yTp eK4yY2 eK4yAi eK4y3k eK4yFZ eK4zbq eK4yFA eK4yFj eK4#8A eK4e8 eK4uy eK4qp eK4yT5 eK4t1 eK4#oQ eK4rU eK4y&2 eK4n2 eK4yEw eK4yUZ eK4z#1 eK4yDD eK4uQ eK4xx eK4nW eK4yIV eK4zN2 eK4zMz eK4nA eK4nq eK4op eK4y8N eK4oA eK4qX eK4sO eK4yJh eK4yC5 eK4xB eK4yFh eK4k# eK4o2 eK4yFa eK4pS eK4ks eK4lw eK4yFt eK4eD eK4ia eK4yXr eK4mt eK4yDb eK4nk eK4yJH eK4pD eK4yNm eK4rk eK4yEu eK4y7i eK4zz# eK4yRv eK4za5 eK4sY eK4t# eK4eQ eK4oO eK4yQ0 eK4zMx eK4oa eK4nC eK4oV eK4yFS eK4nG eK4ss eK4sN eK4yJg eK4rm eK4sb eK4yY1 eK4l# eK4nO eK4yFY eK4qo eK4o6 eK4ku eK4uf eK4eG eK4jK eK4yXh eK4ki eK4ySh eK4nL eK4#nX eK4k9 eK4y5s eK4q6 eK4y86 eK4yUV eK4zpr eK4zzu eK4y6& eK4za1 eK4rt eK4ph eK4lI eK4kU eK4y2t eK4zMu eK4jx eK4pE eK4nz eK4y8M eK4o8 eK4kI eK4oD eK4q5 eK4u8 eK4rx eK4vy eK4q3 eK4oK eK4yFW eK4yFX eK4tT eK4zaH eK4le eK4lW eK4yFr eK4oc eK4y7x eKi& eKjgi1 eKmZe2 eK4y45kh eK4y45eo eK4y45y4x eKBzW& eKBznk eKB#dQ eKByXx eKByzs eKBy6m eKBxh eKBy6F eKBzO6 eKBzqG eKB#e3 eKBzNz eKBzm2 eKEgx eKEe9 eKEeE eKEeP eKEec eKEej eKEfD eKEfO eKEfC eKEfW eK4y45g0 eK4y45oV !a640 e150ygw e130ygw e150y6X e130y6X e150hGvM e130hGvM e150jW e130jW e150yCU e130yCU e150yF8y2A e130yF8y2A e150yOKi4 e130yOKi4 e150kby5U e130kby5U e150t22rhy5U e130t22rhy5U e150pov0 e130pov0 e150hGk# e130hGk# e150poK e130poK e150kQiHmC e130kQiHmC e150yNwmC e130yNwmC e150pokQiHmC e130pokQiHmC e150y2M e130y2M e150hGr0 e130hGr0 e150qznz e130qznz e150qznn e130qznn e150qzp0 e130qzp0 e150y8GeD e130y8GeD e150yNreD e130yNreD e150eBy8GeD e130eBy8GeD " ++
  "e10#0FeD Ve1#mN Ve1hUxK1 Ve1fUxK1 Ve1g3xK1 #VfkD Ve10yJ0pW Ve10eI Ve109 Ve10e8 Ve10tV1 Ve10t2 Ve10qz1 Ve10i4 Ve1uZ Ve1yZG e1uZ e1yZG e150yCc e130yCc e150yQZ e130yQZ e150ygx e130ygx e150yBe e130yBe e150yQa e130yQa e150lI2eaeg e130lI2eaeg e150y5G e130y5G e150yev e130yev e150yet e130yet e150ydt e130ydt e150yDe e130yDe e150xc e130xc e150eBeD e130eBeD e150rAeD e130rAeD eL0e1tV1 eL0e1qz1 Ve10tK Ve10poeG N0K N0eo N0e8 N0o2 N0ka N0y4i N0yIH N0eD N0qv N0eI N0g1 N0fl N0y9P N0yav N0yV1 N0yEz N0xh N0y8L N0yFg N0g8 N0yA1 N0ks N0y9e N0nr N0ybv N0yHK N0y7q N0xE N0yYH N0lw N0yY3 N0yAj N0qX N0yJZ N0gB N0yFl N0yU5 N0yGI N0y4A N0yFn N0ya9 N0yJL N0ug N0w& N0nq N0nA N0mH N0lX N0yGw N0y1g N0y17 N0yXq N0y48 N0hv N0ss N0yGg N0uQ N0yD1 N0i7 N0g5 N0ij N0jh N0y81 N0nO N0yWV N0y9F N0sj N0g0 N0ow N0ne N0o6 N0y1K N0xq N0y3m N0hU N0yYF N0ybS N0zWV N0zpm N0zpV NVe2zpg NVe2#fv NyX# Njgi1 Nlp Ni& NsA NmZe2 !a700 eL0tCfXv1yGO eL0tCfXsKyGO eL0tCfXv1ybp eL0tCfXsKybp eL0tCfXv1y4f eL0tCfXsKy4f eL0tCfXv1nq eL0tCfXsKnq eL0y6jkZfXfF eL0fckZfXfF eL0xJkZfXfF eL0fVkZfXfF eL0y6kkZfXfF eL0y6jkZtZfXfF eL0fckZtZfXfF eL0xJkZtZfXfF eL0fVkZtZfXfF eL0y6kkZtZfXfF eL0y6jtZfXfF eL0fctZfXfF eL0xJtZfXfF eL0fVtZfXfF eL0y6ktZfXfF eL0eJehfF eL0eJp# eL0eJg4fF eL0f3blDiq eL0lfevR eL0lffBR eL0lfn4e2 eL0lfidn4e2 eL0fVidn4e2 eL0y4zOfcfX eL0y4zOfVfX 750y6ZfE 730y6ZfE 750y6ZkJ 730y6ZkJ 750y3Q 730y3Q 750yfK 730yfK 750yef 730yef 750y6C 730y6C 750y6C2i& 730y6C2i& 7035iB 7035ex 750h5 730h5 750y5e 730y5e 750hw 730hw 750y06 730y06 750y062g4fF 730y062g4fF 750rf 730rf 750hGhB2eJ 730hGhB2eJ 750gV2eW 730gV2eW 750gV2gJeW 730gV2gJeW 750gV2eWOgJeW 730gV2eWOgJeW 750y0Gf7 730y0Gf7 750f72fceW 730f72fceW 750eD2g2eWnp 730eD2g2eWnp 750eD2mv 730eD2mv 750k2 730k2 750hI2eWqYkq 730hI2eWqYkq 750hI2y3A 730hI2y3A 750hI2ycsj1 730hI2ycsj1 750j62eWqYkq 730j62eWqYkq 750j62gJeW 730j62gJeW 750ewy4o 730ewy4o 750y9Sy4o 730y9Sy4o 750gZ2gJeW 730gZ2gJeW 750yJ8 730yJ8 750yfkgs 730yfkgs 750wT2eW 730wT2eW 750wT2eWqYkq 730wT2eWqYkq 750yfd 730yfd 750rF 730rF 750y10 730y10 " ++
  "750yP0 730yP0 eL0yAU 730zST 730s0 730#0G 730#7g 730y9S 7035y9S 730y5E 730ux 750oXgg 730oXgg 750oXiB 730oXiB 750oXgP 750fuoXgP 730fuoXgP 750fuf7 730fuf7 750oXew 730oXew 750oXex 730oXex 750oXgT 730oXgT eL0fVhZiS eL0lp eL0iDlL1 750ybR 730ybR 750fugi 730f72kdegOsP 70#VAeJ 750fn2kq 730fn2kq 750hB2fF 730hB2fF 730hB2mWeg 730gi2mWeg 750eM2y3A 730eM2y3A 750iB2eW 730iB2eW 750y2Elj 730y2Elj 750y2EkS 730y2EkS 750y2Enu 730y2Enu 750gP2pZeW 730gP2pZeW 750gV2pZeW 730gV2pZeW 750fn2pZeW 730fn2pZeW 750ew2pZeW 730ew2pZeW 750ex2pZeW 730ex2pZeW 750gi2eg 750hGg9eG 750frgP 750f72sP 75035eI 7035j6 750fugV 750fugT 750hh2uF 750n3 750ol 730ol 750i4 730i4 750e82eW 730e82eW 750lUK 730lUK 750lUeI 730lUeI 750lUe8 730lUe8 750ayGTeD 730ayGTeD 750yMphc 730yMphc 750hB2mWeg 750ex2eg 750gs2mWeg 750gg2iDeWnp 730gg2iDeWnp 750ex2iDeWnp 730ex2iDeWnp !a7d0 750kQoXgP 730kQoXgP !a7d3 730eBwT !a7d5 730eByAc 750eaybbex 730eaybbex 750ycBex 730ycBex !a7f2 eL05hB eL05iB eL05j6 750hGf6gi 730hGf6gi 7y0d0oveI eL05gi2eW eL03WkS 7035fug8 7y0d0hGiB 7y0d0hGhI 7y0d0idg8 7y0d0eIy80 7y0d0kng8 kOkM0K kOkM0eI kOkM1zSl kOkM0e8 kOkM0eG kOkM0eD kOkM1ySa kOkM0nO kOkM0rz kOkM0qo kOkM0ySA kOkM1ja kOkM0rm kOkM0sR kOkM0sb kOkM0zlW kOkM0yIv kOkM0yAL kOkM0yCJ kOkM0yPl kOkM0eQ kOkM0oO kOkM0oV kOkM0yQ0 kOkM0ku kOkM0pD kOkM0sm kOkM0rk kOkM0yNm kOkM0o6 kOkM0nC kOkM0oa kOkM0ybE kOkM0nG kOkM0mt kOkMG1K kOkMG1eI kOkMG1e8 kOkMG1eG kOkMG1k2 kOkMy8wy3u kOkMy8wy3v kOkMy8wyWR kOkMy8wzyQ kOkM1kmySa !a830 gKhngae9l6 gKhngae9f6 gKhngaePqQ gKhngae9y1t gKhngae9l1 gKhngaePy9m gKhnl6e2 gKhnyGQe2 gKhnw9e2 gKhn#H5e2 !a840 jO0eo jO0if jO0gR jO0hv jO0i3 jO0ic jO0hz jO0ih jO0gC jO0j2 jO0gN jO0g5 jO0fl jO0jS jO0gu jO0g0 jO0mM jO0qZ jO0rD jO0i7 jO0oE jO0jt jO03K jO0gB jO0fq jO0g1 jO0i0 jO0gG jO0fQ jO0K jO0eI jO0e8 jO0eG jO0eD jO0od jO0qc jO0kh jO0y0n jO0ka jOhO0i7 jOhO0gB jO0jo jO0ke jO0jp jO0kN jO0kmgB jO0#lsi0 jO0t&fQ jO0yvakh jOhO0fq jO#Yz0fq jO0lb jOhamge2 jOeBmge2 jOe2py jOe2eBpy !a880 hW1ja hW1l9 hW0K hW0h5 hW0eI hW0hg hW0e8 hW0i2 hW0fJew hW0fJkw hW0fJf7 " ++
  "hW0fJlV hW0eG hW0ka hW0hY hW0eD hW0k2 hW0hw hW0eo hW0if hW0gR hW0k7 hW0hv hW0i3 hW0ic hW0hz hW0lN hW0ih hW0jo hW0ke hW0jp hW0kp hW0kN hW0gC hW0j2 hW0gN hW0k1 hW0g5 hW0fl hW0jS hW0gu hW0kP hW0g0 hW0gB hW0fq hW0g1 hW0jT hW0i0 hW0kx hW0gG hW0fQ hW0mu hWh91zd6 hWG1h5 hWG1eI hWG1hg hWG1e8 hWG1i2 hWG1fJew hWG1fJkw hWG1fJf7 hWG1fJlV hWG1eG hWG1ka hWG1hY hWG1eD hWG1k2 hWG1hw hW1kk hW1lb !a8ce hWmF hWeBmF hWEgx hWEe9 hWEeE hWEeP hWEec hWEej hWEfD hWEfO hWEfC hWEfW !a8e0 Vf4Egx Vf4Ee9 Vf4EeE Vf4EeP Vf4Eec Vf4Eej Vf4EfD Vf4EfO Vf4EfC Vf4EfW Vf40K Vf40e8 Vf40eo Vf40g5 Vf40fl Vf40fq Vf40u# Vf41pj f41yHnlb f41lbkk f41eBlbkk f41lbeE f41lbeP f41lbpj f41#G5 f4y0muN f4tB f4yDU f41ge f4zlFrN f40rf f4G1rf jkijEgx jkijEe9 jkijEeE jkijEeP jkijEec jkijEej jkijEfD jkijEfO jkijEfC jkijEfW jkij0eo jkij0if jkij0gR jkij0hv jkij0gG jkij0i0 jkij0jt jkij0ih jkij0gC jkij0yT3 jkij0g5 jkij0fl jkij0jS jkij0g0 jkij0gN jkij0gu jkij0fq jkij0gB jkij0g1 jkij0i7 jkij0j2 jkij0fQ jkij0jT jkij0i3 jkij0K jkij0kS jkij0eI jkij0k2 jkijGnu jkijGeG jkijGe8 jkijGka jkijGeD jkijfXyZt jkijfXyOU jkijfXyOUyZt jkij1yCB jkij1#Uk lH0eo lH0gR lH0hv lH0gC lH0gN lH0g5 lH0fl lH0gu lH0g0 lH0i3 lH0hz lH0ih lH0gG lH0fq lH0g1 lH0gB lH0i7 lH0fQ lH0y3w lH0y48 lH0y1Q lH0#87 lH0K lHG1eI lHG1e8 lHG1eG lHG1hY lHG1eD lHG1hw lHG1uM lHG1yCd lHh91oc lHh91fn lHh91ew lHh91gi lHkk !a95f lHl8e2 Sfj#dH SfjyeD SfjyeF SfjyeB Sfjy9H Sfjyb0 SfjyGz Sfj#Jy Sfjy9I Sfjy9J Sfj#Jw Sfjyaw Sfjy9K Sfj#Jo Sfjyax SfjyWq Sfjz#f SfjyF3 Sfj#E0 Sfj#Dv SfjyZd Sfj#X1 Sfjzjz Sfjzjt Sfj#Wz Sfj#X3 Sfj#DZ Sfjzeo Sfj#X5 !a980 g#1#CH g#1yOg g#1zsS g#1#np g#0K g#0eIznW g#0eI g#0hg g#0e8 g#0flz2Z g#0hvyV3 g#0hvyV3#Id g#0eG g#0hY g#0eD g#0eo g#0eowA g#0eos2 g#0gR g#0gRs2 g#0hv g#0i3 g#0i3s2 g#0hz g#0ihs2 g#0hzvn g#0ih g#0jo g#0jovn g#0jp g#0jpvn g#0g5s2 g#0gC g#0gCs2 g#0gN g#0gNvn g#0g5 g#0fl g#0fls2 g#0gu g#0gus2 g#0g0 g#0gB g#0fq g#0fqytK g#0g1 g#0i7 g#0gGs2 g#0gGvn g#0gG g#0fQ g#1yOg#c1 g#G1#bS g#G1#du g#G1yg9 g#G1yg9zzH g#G1y9& g#G1y9&zzM g#G1y51 g#G1zNV#0S g#G1yGF " ++
  "g#h91znu g#h91#D5 g#h91yOT g##C7 g#dyan g#byan g#rPyuB g#rPzxk g#rPzuP g#rPyg3 g#rP#C6 g#rPztZ g#rPzuS g#rPy2O g#rPy2Oy2O g#rPyZn g#furPyZn !a9cf g##CA g#Egx g#Ee9 g#EeE g#EeP g#Eec g#Eej g#EfD g#EfO g#EfC g#EfW !a9de g#rP#dV#fz g#rPzl0 eb0kHk7 eb0kHic eb0kHlN eb0kHkN eb0kHkP eb1kHyH9 ebeL0kHyaj eb0eCn9ih eb0eCn9kh eb0eCn9gR eb0eCn9k7 eb0eCn9hz eb0eCn9lN eb0eCn9jp eb0eCn9kp eb0eCn9kN ebeCn9Egx ebeCn9Ee9 ebeCn9EeE ebeCn9EeP ebeCn9Eec ebeCn9Eej ebeCn9EfD ebeCn9EfO ebeCn9EfC ebeCn9EfW eb0eCn9mu eb0eCn9gN eb0eCn9k1 eb0eCn9gu eb0eCn9kP !aa00 hQ0K hQ0eI hQ0e8 hQ0eG hQ0hY hQ0eD hQ0eo hQ0if hQ0gR hQ0k7 hQ0#46 hQ0hv hQ0ic hQ0z38 hQ0hz hQ0lN hQ0#4G hQ0y1S hQ0#4F hQ0gC hQ0j2 hQ0gN hQ0k1 hQ0#7f hQ0g5 hQ0jp hQ0fl hQ0#FA hQ0jS hQ0gu hQ0kP hQ0#07 hQ0g0 hQ0wl hQ0gB hQ0fq hQ0g1 hQ0jT hQ0kx hQ0gG hQ0fQ hQG1h5 hQG1eI hQG1hg hQG1uI hQG1e8 hQG1kS hQG1eD hQG1hY hQG1hw hQG1nu hQh91gB hQh91fq hQh91g1 hQh91i7 !aa40 hQ0eAgV hQ0eAgP hQ0eAoc hQh91eAoc hQ0eAyOl hQ0eAgT hQ0eAfn hQ0eAhI hQ0eAgw hQ0eAew hQ0eAf7 hQ0eAy9v hQh91eAg8 hQh91eAgi !aa50 hQEgx hQEe9 hQEeE hQEeP hQEec hQEej hQEfD hQEfO hQEfC hQEfW !aa5c hQgSxf hQgSmF hQgSeBmF hQgSj8mF eb0nNgR eb0nNi3 eb0nNic eb0nNhz eb0nNlN eb0nNih eb0nNjo eb0nNke eb0nNjp eb0nNkp eb0nNk1 eb0nNg5 eb0nNgG eb0nNfQ eb0nNuU eb0nNkh ebeL0nNyaj eb0nNqc eb0nNjt eb0nNfq ebvlnNyYZ ebvlnN#G# ebvlnNzfS ebBy02n4 ebBy02e9 ebBy02eE eb0y02fq eb1#CLpAfX eb1eCn9tu eb1eCn9tv eb0xcy8iic eb0xcy8ii0 eCi60fVnO eCi60fcnO eCi60fVrz eCi60fcrz eCi60fVyUE eCi60fcyUE eCi60fVqo eCi60fcqo eCi60fVxO eCi60fcxO eCi60fVrm eCi60fcrm eCi60fVsR eCi60fcsR eCi60fVnG eCi60fcnG eCi60fVuf eCi60fcuf eCi60fVoV eCi60fcoV eCi60fVeQ eCi60fceQ eCi60fVoO eCi60fcoO eCi60fVku eCi60fcku eCi60fVrk eCi60fcrk eCi60fVpD eCi60fcpD eCi60fVsm eCi60fcsm eCi60fVsY eCi60fcsY eCi60fVo6 eCi60fco6 eCi60fVl# eCi60fcl# eCi60fVnC eCi60fcnC eCi60fVoa eCi60fcoa eCi60fVt# eCi60fct# eCi60fVmt eCi60fcmt eCi60fVeD eCi60fceD eCi6o4y7X eCi6Gh5 eCi6GeI eCi6Gnu eCi6Ge8 eCi6GeG eCi6GeD eCi6o4zoG eCi6Gy7J eCi6G#ho eCi6Gy29 eCi6GyNC " ++
  "eCi6Grf eCi6GlB eCi6Gt5 eCi6fXo4y0b eCi6fXo4yYI eCi6fXo4oO eCi6fXo4#WB !aadb eCi6ByUQ eCi6ByYI eCi6ByH7 eCi6BmtzgQ eCi6ByEHyEH hjhi0eG hjhi0eD hjhi0ic hjhi0ih hjhi0jo hjhi0ke hjhi0jp hjhi0kp hjhi0kN hjhi0i0 hjhi0kx hjhiG1hg hjhiG1i2 hjhiG1yMK hjhiG1hw hjhiG1yrK hjhiz2x hjhiytNzoP hjhiyAy hjhi4y4je2 hjhinvy4je2 hjhiG1l9 hjhikk !ab01 Y4#fa Y4yez Y4yIu Y4#fY Y4yey Y4yAL !ab09 Y4zLq Y4zLp Y4yPk Y4zLo Y4zLn Y4yPl !ab11 Y4yQY Y4yQV Y4zSs Y4yQT Y4vM Y4yQX !ab20 Y4z25 Y4z2B Y4z29 Y4z26 Y4z28 Y4z27 Y4z2A !ab28 Y4wl Y4yNa Y4yNY Y4y#8 Y4y#C Y4y2Z Y4yNZ !ab30 730t8i9 730K#JV 730yBMeG 730t8eG 730eG2y3A 730yV4iB 730frgP2uF 730f72idyETex 730f72eBeagH 730f72eaft 730g82uF 730fn2uF 730rr2uF 730yBMeD 730yBMeD2eW 730g9eD2eW 730idkS 730fukS2eW 730fukS2g4eW 730fueDyYp 730fueDyYp2eW 730#Xvew 7035ew2boZ 730ewy5OySZ 730eBew 730ew2uF 730eBew2uF 730frew 730frew2ft 730yNUoq 730e82iDboZ 730e8fF2iDboZ 730yAR 730fuyAR 730e82deg 730n3 730n32fVbft 730n32fVdybj 730hK2fVbft 730hK2g2doZ 730hK2g2doZOfVbft 730hK2g2doZ2ybj 730gw2iDboZ eLjE2idjE eL03y3Q eL03f72idyETex eL03f72eagH eL03e82deg 730#Mwv0 730poeG 730g9kS 730yfV 730idi9 X035i4 730tJm02kdeg 730yAIm02kdeg 730fuew2eagH eL03fuhc eL0dla eL0bla !ab70 e&30K e&30eG e&30eI e&30eD e&30e8 e&30gZ e&30gR e&30eo e&30tT e&30nc e&30qo e&30pS e&30ySR e&30fQ e&30ki e&30lE e&30mt e&30qp e&30y7H e&30g1 e&30jx e&30ij e&30oa e&30nA e&30yVT e&30g0 e&30le e&30mH e&30o6 e&30ks e&30g5 e&30yDZ e&30yFL e&30lW e&30lX e&30ku e&30lw e&30yFp e&30yaK e&30yaL e&30yaM e&30yGq e&30yGr e&30yaP e&30gG e&30ex e&30o8 e&30nr e&30nG e&30oA e&30yIA e&30gN e&30gC e&30nz e&30lI e&30oo e&30ow e&30oV e&30op e&30yQR e&30y6R e&30yIc e&30yId e&30yIf e&30yIg e&30yIh e&30yeP e&30mM e&30r0 e&30xv e&30yAJ e&30yAK e&30yeu e&30i7 e&30nL e&30oC e&30nk e&30t1 e&30ygB e&30gB hjhi0yUP hjhi0yH7 hjhi0y7r hjhi0yF6 hjhi0fl hjhi0g5 hjhi0z3D hjhi0yIa hjhi0zoM hjhi0yXt hjhi0#ci hjhi0#n6 hjhi0sK hjhi0zhb hjhi0uy hjhi0eI hjhi0#DW hjhi0yvp hjhi0zbn hjhi0zlU hjhi0#IR hjhi0gu hjhi0y3a hjhi0zNI hjhi0zbD hjhi0zN1 " ++
  "hjhi0y#z hjhi0yUPvm hjhi0y7rvm hjhi0yF6vm hjhi0flvm hjhi0g5vm hjhi0yIavm hjhi0yXtvm hjhi0eIvm hjhiG1#Ae hjhiG1zkO hjhiG1yu8 hjhiG1#qN hjhiG1#WI hjhiG1#i6 hjhiG1z2z hjhiG1yFo hjhiz2y hjhis0yTb hjhiyuryTb !abf0 hjhiEgx hjhiEe9 hjhiEeE hjhiEeP hjhiEec hjhiEej hjhiEfD hjhiEfO hjhiEfC hjhiEfW !d7b0 Sgq#8& Sgq#8w Sgq#qv Sgq#qw Sgq#qx Sgq#gw Sgq#gt Sgq#rH Sgq#rK SgqzUz SgqzU& SgqzU# SgqzV1 Sgqzib Sgqzic Sgqzie Sgqzid SgqziY Sgqzif Sgqzig SgqziW Sgqyux Sgqyuy !d7cb SfY#4V SfY#4T SfYy9# SfY#X4 SfYyeD SfYyeF SfY#dI SfYyeB SfY#dG SfY#dJ SfYyb0 SfY#Jp SfY#W& SfY#Jq SfY#Jv SfY#Ju SfY#J& SfY#J# SfYyTx SfYz#a SfYz#d SfY#W# SfYz#b SfYz#Y SfYyGN SfY#Dz SfY#Dw SfYy9y SfYyGM SfYyGL SfYyZc SfYycK SfY#VD SfY#X0 SfY#X2 SfY#VF SfYyHX SfYycI SfYycN SfYycJ SfY#CF SfY#CE SfY#qT SfY#qS SfYz3w SfYz3x SfYy9w SfY#Da SfY#Db !fb00 73WzXA 73WsV 73WzXa 73WzXB 73WzXC 73Wg2exgT 73WyHv !fb13 gk3Wsjy8U gk3Wsjy0a gk3WsjyDm gk3WyJ7y8U gk3WsjyJM !fb1d fb0u12ySs fbm&zm8#kD fbWyAhu1u1y8m fb0yAwrg fb0sIfE fb0sIy6E fb0sIki fb0sIjr fb0sIy7s fb0sIeAot fb0sIrV fb0sIyIJ fb0yAweu1 fb0lm2lmeJ fb0lm2y9leJ fb0lm2naOlmeJ fb0lm2naOy9leJ fb0fE2y8m fb0fE2y92 fb0fE2yEp fb0y0B2na fb0pn2na fb0y6E2na fb0ki2yEp fb0y2D2na fb0r52na !fb38 fb0xq2na fb0u12na fb0eAjr2na fb0jr2na fb0y7s2na !fb3e fb0ot2na !fb40 fb0j92na fb0px2na !fb43 fb0eAk92na fb0k92na !fb46 fb0yIr2na fb0yGo2na fb0rV2na fb0lm2na fb0yIJ2na fb0y2D2yDa fb0y0B2y98 fb0jr2y98 fb0k92y98 fbWfEy7s 80fEyAXeXF 80fEyAXeAF 80y2aeXF 80y2aeAF 80y2aelF 80y2agbF 80uheXF 80uheAF 80uhelF 80uhgbF 80y2beXF 80y2beAF 80y2belF 80y2bgbF 80y5DeXF 80y5DeAF 80y5DelF 80y5DgbF 80y53eXF 80y53eAF 80y53elF 80y53gbF 80y27eXF 80y27eAF 80y27elF 80y27gbF 80y5KeXF 80y5KeAF 80y5KelF 80y5KgbF 80y4ReXF 80y4ReAF 80y4RelF 80y4RgbF 80y2zeXF 80y2zeAF 80y2zelF 80y2zgbF 80y4EeXF 80y4EeAF 80y4EelF 80y4EgbF 80xmeXF 80xmeAF 80xmelF 80xmgbF 80y52eXF 80y52eAF 80y52elF 80y52gbF 80yCGeXF 80yCGeAF 80yCCeXF 80yCCeAF 80yCaeXF 80yCaeAF 80yCHeXF 80yCHeAF 80yDyeXF 80yDyeAF 80yH4eXF 80yH4eAF 80ryeXF 80ryeAF 80ryelF 80rygbF " ++
  "80tSeXF 80tSeAF 80tSelF 80tSgbF 80y3OeXF 80y3OeAF 80y3OelF 80y3OgbF 80y49eXF 80y49eAF 80y49elF 80y49gbF 80iZy3IeXF 80iZy3IeAF 80y4leXF 80y4leAF 80y4lelF 80y4lgbF 80jw2eqceXF 80jw2eqceAF 80jwvUeXF 80jwvUeAF 80jwvUelF 80jwvUgbF 80jwy2weXF 80jwy2weAF 80jwy2welF 80jwy2wgbF 80equ5eXF 80equ5eAF 80equ52hfceXF 80equ52hfceAF 8BeJc 8BeJeH 8BeEfZc 8BeEfZeH 8BePfZc 8BePfZeH 8BePfZhpgEc 8BePfZhpgEeH 8BecfZc 8BecfZeH 8BeBehfFeH 8BeEfZwcc 8BeEfZwceH 8Bft 8B3kzc 8B3kzeH 8ByAXc !fbd3 80oceXF 80oceAF 80ocelF 80ocgbF 80e8eXF 80e8eAF 80kSeXF 80kSeAF 80k#eXF 80k#eAF 80e82hfceXF 80pheXF 80pheAF 80sdkSeXF 80sdkSeAF 80sdk#eXF 80sdk#eAF 80eGeXF 80eGeAF 80eGelF 80eGgbF 80y5IyT&sdfEiQelF 80y5IyT&sdfEiQgbF 8Weq2hfc2fEeXF 8Weq2hfc2fEeAF 8Weq2hfc2ljeXF 8Weq2hfc2ljeAF 8Weq2hfc2kfeXF 8Weq2hfc2kfeAF 8Weq2hfc2e8eXF 8Weq2hfc2e8eAF 8Weq2hfc2kSeXF 8Weq2hfc2kSeAF 8Weq2hfc2k#eXF 8Weq2hfc2k#eAF 8Weq2hfc2eGeXF 8Weq2hfc2eGeAF 8Weq2hfc2eGelF 8Wy5Isdeq2hfc2fEiQeXF 8Wy5Isdeq2hfc2fEiQeAF 8Wy5Isdeq2hfc2fEiQelF 80qmeqeXF 80qmeqeAF 80qmeqelF 80qmeqgbF 8Weq2hfc2gQeXF 8Weq2hfc2fzeXF 8Weq2hfc2emeXF 8Weq2hfc2fEiQeXF 8Weq2hfc2eqeXF 8WkK2gQeXF 8WkK2fzeXF 8WkK2iUeXF 8WkK2emeXF 8WkK2fEiQeXF 8WkK2eqeXF 8Wje2gQeXF 8Wje2fzeXF 8Wje2iUeXF 8Wje2emeXF 8Wje2fEiQeXF 8Wje2eqeXF 8Wnj2gQeXF 8Wnj2emeXF 8Wnj2fEiQeXF 8Wnj2eqeXF 8WgQ2fzeXF 8WgQ2emeXF 8Wfz2gQeXF 8Wfz2emeXF 8WiU2gQeXF 8WiU2fzeXF 8WiU2emeXF 8Wjn2gQeXF 8Wjn2fzeXF 8Wjn2iUeXF 8Wjn2emeXF 8Wlg2fzeXF 8Wlg2emeXF 8Wlr2gQeXF 8Wlr2fzeXF 8Wlr2iUeXF 8Wlr2emeXF 8Wkz2fzeXF 8Wkz2emeXF 8Wr42emeXF 8WkJ2gQeXF 8WkJ2emeXF 8Wn62gQeXF 8Wn62emeXF 8Wl32gQeXF 8Wl32fzeXF 8Wl32iUeXF 8Wl32emeXF 8Wl32fEiQeXF 8Wl32eqeXF 8WlP2fzeXF 8WlP2emeXF 8WlP2fEiQeXF 8WlP2eqeXF 8Wjr2fEeXF 8Wjr2gQeXF 8Wjr2fzeXF 8Wjr2iUeXF 8Wjr2h#eXF 8Wjr2emeXF 8Wjr2fEiQeXF 8Wjr2eqeXF 8Wh#2gQeXF 8Wh#2fzeXF 8Wh#2iUeXF 8Wh#2emeXF 8Wh#2fEiQeXF 8Wh#2eqeXF 8Wem2gQeXF 8Wem2fzeXF 8Wem2iUeXF 8Wem2emeXF 8Wem2fEiQeXF 8Wem2eqeXF 8WiZ2gQeXF 8WiZ2fzeXF 8WiZ2iUeXF 8WiZ2emeXF 8WiZ2fEiQeXF 8WiZ2eqeXF 8Wjw2gQeXF 8Wjw2emeXF 8Wjw2fEiQeXF 8Wjw2eqeXF " ++
  "8Weq2gQeXF 8Weq2fzeXF 8Weq2iUeXF 8Weq2emeXF 8Weq2fEiQeXF 8Weq2eqeXF 8WwQ2mlfEeXF 8Wl72mlfEeXF 8WfEiQ2mlfEeXF 8Wqy2y2seXF 8Wqy2y3geXF 8Wqy2qneXF 8Wqy2sTeXF 8Wqy2qreXF 8Wqy2mlfEeXF 8Weq2hfc2l7eAF 8Weq2hfc2q4eAF 8Weq2hfc2emeAF 8Weq2hfc2iZeAF 8Weq2hfc2fEiQeAF 8Weq2hfc2eqeAF 8WkK2l7eAF 8WkK2q4eAF 8WkK2emeAF 8WkK2iZeAF 8WkK2fEiQeAF 8WkK2eqeAF 8Wje2l7eAF 8Wje2q4eAF 8Wje2emeAF 8Wje2iZeAF 8Wje2fEiQeAF 8Wje2eqeAF 8Wnj2l7eAF 8Wnj2q4eAF 8Wnj2emeAF 8Wnj2iZeAF 8Wnj2fEiQeAF 8Wnj2eqeAF 8Wl32fEiQeAF 8Wl32eqeAF 8WlP2fEiQeAF 8WlP2eqeAF 8Wjr2fEeAF 8Wjr2h#eAF 8Wjr2emeAF 8Wjr2fEiQeAF 8Wjr2eqeAF 8Wh#2emeAF 8Wh#2fEiQeAF 8Wh#2eqeAF 8Wem2fEeAF 8Wem2emeAF 8WiZ2l7eAF 8WiZ2q4eAF 8WiZ2emeAF 8WiZ2iZeAF 8WiZ2fEiQeAF 8WiZ2eqeAF 8WfEiQ2mlfEeAF 8Weq2l7eAF 8Weq2q4eAF 8Weq2emeAF 8Weq2iZeAF 8Weq2fEiQeAF 8Weq2eqeAF 8Weq2hfc2gQelF 8Weq2hfc2fzelF 8Weq2hfc2iUelF 8Weq2hfc2emelF 8Weq2hfc2jwelF 8WkK2gQelF 8WkK2fzelF 8WkK2iUelF 8WkK2emelF 8WkK2jwelF 8Wje2gQelF 8Wje2fzelF 8Wje2iUelF 8Wje2emelF 8Wje2jwelF 8Wnj2emelF 8WgQ2fzelF 8WgQ2emelF 8Wfz2gQelF 8Wfz2emelF 8WiU2gQelF 8WiU2emelF 8Wjn2gQelF 8Wjn2fzelF 8Wjn2iUelF 8Wjn2emelF 8Wlg2fzelF 8Wlg2iUelF 8Wlg2emelF 8Wlr2gQelF 8Wlr2fzelF 8Wlr2iUelF 8Wlr2emelF 8Wkz2fzelF 8Wr42emelF 8WkJ2gQelF 8WkJ2emelF 8Wn62gQelF 8Wn62emelF 8Wl32gQelF 8Wl32fzelF 8Wl32iUelF 8Wl32emelF 8WlP2fzelF 8WlP2emelF 8Wjr2gQelF 8Wjr2fzelF 8Wjr2iUelF 8Wjr2h#elF 8Wjr2emelF 8Wh#2gQelF 8Wh#2fzelF 8Wh#2iUelF 8Wh#2emelF 8Wh#2jwelF 8Wem2gQelF 8Wem2fzelF 8Wem2iUelF 8Wem2emelF 8WiZ2gQelF 8WiZ2fzelF 8WiZ2iUelF 8WiZ2emelF 8WiZ2jwelF 8Wjw2gQelF 8Wjw2emelF 8Wjw2mlfEelF 8Weq2gQelF 8Weq2fzelF 8Weq2iUelF 8Weq2emelF 8Weq2jwelF 8Weq2hfc2emgbF 8Weq2hfc2jwgbF 8WkK2emgbF 8WkK2jwgbF 8Wje2emgbF 8Wje2jwgbF 8Wnj2emgbF 8Wnj2jwgbF 8Wjn2emgbF 8Wjn2jwgbF 8WkT2emgbF 8WkT2jwgbF 8Wjr2h#gbF 8Wjr2emgbF 8Wh#2emgbF 8WiZ2emgbF 8WiZ2jwgbF 8Weq2emgbF 8Weq2jwgbF 8Wqy2qngbF 8Wqy2sTgbF 8Wqy2qrgbF 8Wkz2fEiQeXF 8Wkz2eqeXF 8WkJ2fEiQeXF 8WkJ2eqeXF 8Wn62fEiQeXF 8Wn62eqeXF 8Wjn2fEiQeXF 8Wjn2eqeXF 8WkT2fEiQeXF 8WkT2eqeXF 8Wfz2fEiQeXF 8Wfz2eqeXF " ++
  "8WgQ2fEiQeXF 8WgQ2eqeXF 8WiU2fEiQeXF 8WiU2eqeXF 8Wlg2fEiQeXF 8Wlg2eqeXF 8Wlr2fEiQeXF 8Wlr2eqeXF 8WkT2gQeXF 8WkT2fzeXF 8WkT2iUeXF 8WkT2emeXF 8WkT2l7eXF 8Wjn2l7eXF 8Wlg2l7eXF 8Wlr2l7eXF 8Wkz2fEiQeAF 8Wkz2eqeAF 8WkJ2fEiQeAF 8WkJ2eqeAF 8Wn62fEiQeAF 8Wn62eqeAF 8Wjn2fEiQeAF 8Wjn2eqeAF 8WkT2fEiQeAF 8WkT2eqeAF 8Wfz2fEiQeAF 8Wfz2eqeAF 8WgQ2fEiQeAF 8WgQ2eqeAF 8WiU2fEiQeAF 8WiU2eqeAF 8Wlg2fEiQeAF 8Wlg2eqeAF 8Wlr2fEiQeAF 8Wlr2eqeAF 8WkT2gQeAF 8WkT2fzeAF 8WkT2iUeAF 8WkT2emeAF 8WkT2l7eAF 8Wjn2l7eAF 8Wlg2l7eAF 8Wlr2l7eAF 8WkT2gQelF 8WkT2fzelF 8WkT2iUelF 8WkT2emelF 8Wjn2jwelF 8WkT2jwelF 8Wkz2emelF 8Wjn2gQgbF 8Wjn2fzgbF 8Wjn2iUgbF 8WkT2gQgbF 8WkT2fzgbF 8WkT2iUgbF 8Wkz2emgbF 8Wr42emgbF 8WfE2w#eAF 8WfE2w#eXF yYsdkF yYsbkF 8W#IOyMi 8Wy1fy2SyuK 8Wy1fy2SyuL 8Wy1fy2SyuN 8Wy1fy2SyuO 8Wy1fy2SyuP 8W#N3y5b#mz 8Wy5by5k 8Wytjy5k 8Wytky5k 8Wy5byvR#nF 8W#H8#VL 8W#N4y5b#n0#m# 8Wytiy5k 8W#b4#m& 8W#IPyMi 8Wje2gQ2emelF 8Wje2fz2gQeAF 8Wje2fz2gQelF 8Wje2fz2emelF 8Wje2iU2emelF 8Wje2em2gQelF 8Wje2em2fzelF 8Wje2em2iUelF 8WgQ2em2fzeAF 8WgQ2em2fzelF 8Wfz2em2eqeAF 8Wfz2em2fEiQeAF 8Wjn2fz2gQelF 8Wjn2gQ2fzelF 8Wjn2gQ2fEiQeAF 8Wjn2em2fzeAF 8Wjn2em2fzelF 8Wjn2em2gQelF 8Wjn2em2emeAF 8Wjn2em2emelF 8Wlg2fz2fzeAF 8Wlg2fz2fzelF 8Wlg2em2emeAF 8WkT2fz2emeAF 8WkT2fz2emelF 8WkT2gQ2eqeAF 8WkT2em2iUeAF 8WkT2em2iUelF 8WkT2em2emeAF 8WkT2em2emelF 8Wlr2fz2fEiQeAF 8Wlr2iU2emeAF 8Wlr2iU2emelF 8Wkz2em2fzeAF 8Wkz2em2fzelF 8Wkz2em2emelF 8Wkz2em2eqeAF 8WkJ2gQ2emeAF 8WkJ2em2emeAF 8WkJ2em2emelF 8WkJ2em2fEiQeAF 8Wn62em2emeAF 8Wn62em2eqeAF 8Wn62em2fEiQeAF 8Wl32iU2emeAF 8Wl32iU2emelF 8WlP2em2fzeAF 8WlP2em2emeAF 8Wh#2fz2emeAF 8Wh#2fz2eqeAF 8Wh#2fz2fEiQeAF 8Wh#2gQ2gQelF 8Wh#2gQ2gQeAF 8Wh#2iU2emeAF 8Wh#2iU2emelF 8Wh#2em2fzeAF 8Wh#2em2fzelF 8Wem2fz2gQelF 8Wem2fz2emelF 8Wem2fz2eqeAF 8Wem2gQ2fzelF 8Wem2gQ2emelF 8Wem2iU2gQelF 8Wem2iU2emelF !fd92 8Wem2gQ2iUelF 8Wjw2em2gQelF 8Wjw2em2emelF 8WiZ2fz2emelF 8WiZ2fz2fEiQeAF 8WiZ2gQ2emeAF 8WiZ2gQ2emelF 8WiZ2gQ2fEiQeAF 8WiZ2em2eqeAF 8WiZ2em2fEiQeAF 8Weq2em2emeAF 8Weq2em2emelF 8WkK2iU2eqeAF 8Wje2gQ2eqeAF " ++
  "8Wje2gQ2fEiQeAF 8Wje2iU2eqeAF 8Wje2iU2fEiQeAF 8Wje2em2eqeAF 8Wje2em2fEiQeAF 8WgQ2em2eqeAF 8WgQ2fz2fEiQeAF 8WgQ2em2fEiQeAF 8Wjn2iU2fEiQeAF 8Wlg2fz2eqeAF 8WkT2fz2eqeAF 8Wlr2fz2eqeAF 8Wh#2gQ2eqeAF 8Wh#2em2eqeAF 8Weq2fz2eqeAF 8Weq2gQ2eqeAF 8Weq2em2eqeAF 8Wem2em2eqeAF 8WlP2em2eqeAF 8WiZ2fz2eqeAF 8WlP2em2fzelF 8Wh#2fz2emelF 8WkJ2em2eqeAF 8Wjr2em2eqeAF 8WiZ2gQ2fzelF 8Wem2iU2eqeAF 8Wh#2gQ2emelF 8Wjr2em2emeAF 8Wh#2gQ2emeAF 8WiZ2gQ2fzeAF 8WgQ2fz2eqeAF 8Wfz2gQ2eqeAF 8Wem2gQ2eqeAF 8Wl32em2eqeAF 8WkK2fz2eqeAF 8Wjr2em2emelF 8WkJ2gQ2emelF 8Wlg2em2emelF 8Wjn2iU2eqeAF 8WiZ2gQ2eqeAF !fdcf 8W#N0ytl !fdf0 8WybPyfYqfyUSi11eXF 8W#GVyfYqfyUSi11eXF 8WytseXF 8WytaeXF 8Wz&TeXF 8W#N2eXF 8W#IceXF 8Wy2QeXF 8WyfteXF 8WybPeXF 8WybQy2Qyft 8WzlH #Jk1 8Wy&Oyuvyuu 8W#Yfi7#a# 8WywIi7zlG eR#O0 eR#Pl eR#Qp eR#Q# eR#R9 eR#RK eR#RV eR#Rg eR#Rr eR#O1 eR#OC eR#ON eR#OY eR#Oj eR#Ou eR#P3 llFe0ehi& llFe0ehfsi& llFe0ehfsjgi1 llFe0ehlp llFe0ehsA llFe0ehn4e2 llFe0ehmZe2 llFe0ehdeNvgfP llFe0ehbeNvgy&& llFe0ehg4vN !fe20 VWdf6 VWbf6 VeBgHdf6 VeBgHbf6 ViXdf6 ViXbf6 VyP2iX VWdf6eH VWbf6eH VgHdf6eH VgHbf6eH ViXdf6eH ViXbf6eH VyP2iXeH Ve1y58df6 Ve1y58bf6 llFe0eheEeJyEU llFe0ehp0kg llFe0ehjKkg llFe0ehfViN llFe0ehs#fViN llFe0ehdkF llFe0ehbkF llFe0ehdlKfP llFe0ehblKfP llFe0ehdnJlyfP llFe0ehbnJlyfP llFe0ehdeFvgfP llFe0ehbeFvgfP llFe0ehdeBiqfP llFe0ehbeBiqfP llFe0ehdiqfP llFe0ehbiqfP llFe0ehdlDfP llFe0ehblDfP llFe0ehdeNlDfP llFe0ehbeNlDfP ybkeJ eNybkeJ llFe0ehde3fP llFe0ehbe3fP rBw0 yOjw0 s#w0 eBs#w0 rBfViN yOjfViN s#fViN 3i& 3fsi& 3jgi1 !fe54 3sA 3lp 3mZe2 3n4e2 3p0kg 3dkF 3bkF 3dlKfP 3blKfP 3dnJlyfP 3bnJlyfP 3T1 3v5 3kD 3eu1 3y7I 3j51 3j41 3lL1 !fe68 3oNni 3wu1 3y4U1 3y2nmn !fe70 8w#eXF 8y202w#c 8y2seXF 8j1zYE 8y3geXF !fe76 8qneXF 8qngbF 8sTeXF 8sTgbF 8qreXF 8qrgbF 8qyeXF 8qygbF 8wLeXF 8wLgbF 80hfeXF 80fE2siceXF 80fE2siceAF 80fE2hfceXF 80fE2hfceAF 80kf2hfceXF 80kf2hfceAF 80fE2hfeHeXF 80fE2hfeHeAF 80eq2hfceXF 80eq2hfceAF 80eq2hfcelF 80eq2hfcgbF 80fEeXF 80fEeAF 80kKeXF 80kKeAF 80kKelF 80kKgbF 80jey85eXF 80jey85eAF 80jeeXF " ++
  "80jeeAF 80jeelF 80jegbF 80njeXF 80njeAF 80njelF 80njgbF 80gQeXF 80gQeAF 80gQelF 80gQgbF 80fzeXF 80fzeAF 80fzelF 80fzgbF 80iUeXF 80iUeAF 80iUelF 80iUgbF 80oneXF 80oneAF 80wQeXF 80wQeAF 80l7eXF 80l7eAF 80q4eXF 80q4eAF 80jneXF 80jneAF 80jnelF 80jngbF 80kTeXF 80kTeAF 80kTelF 80kTgbF 80lgeXF 80lgeAF 80lgelF 80lggbF 80lreXF 80lreAF 80lrelF 80lrgbF 80kzeXF 80kzeAF 80kzelF 80kzgbF 80r4eXF 80r4eAF 80r4elF 80r4gbF 80kJeXF 80kJeAF 80kJelF 80kJgbF 80n6eXF 80n6eAF 80n6elF 80n6gbF 80l3eXF 80l3eAF 80l3elF 80l3gbF 80lPeXF 80lPeAF 80lPelF 80lPgbF 80jreXF 80jreAF 80jrelF 80jrgbF 80h#eXF 80h#eAF 80h#elF 80h#gbF 80emeXF 80emeAF 80emelF 80emgbF 80iZeXF 80iZeAF 80iZelF 80iZgbF 80jweXF 80jweAF 80jwelF 80jwgbF 80kfeXF 80kfeAF 80fEiQeXF 80fEiQeAF 80eqeXF 80eqeAF 80eqelF 80eqgbF 8Wh#2fE2siceXF 8Wh#2fE2siceAF 8Wh#2fE2hfceXF 8Wh#2fE2hfceAF 8Wh#2fE2hfeHeXF 8Wh#2fE2hfeHeAF 8Wh#2fEeXF 8Wh#2fEeAF !feff gxs&yFio9 !ff01 gOn4e2 gOmKe2 gOT1 gOwu1 gOy4U1 gOv5 gOu2 gOdkF gObkF gOkD gOeu1 gOi& gOy7I gOjgi1 gOni gOEgx gOEe9 gOEeE gOEeP gOEec gOEej gOEfD gOEfO gOEfC gOEfW gOlp gOsA gOj51 gOlL1 gOj41 gOmZe2 gOy2nmn gO750K gO750eM gO750hB gO750gg gO750eG gO750iB gO750gP gO750gi gO750eI gO750hh gO750gV gO750f7 gO750g8 gO750fn gO750eD gO750hI gO750j6 gO750ew gO750ex gO750gT gO750e8 gO750gZ gO750hc gO750hK gO750gw gO750gs gOde3fP gOoNni gObe3fP gOhZiS gOfViN gOiMiS gO730K gO730eM gO730hB gO730gg gO730eG gO730iB gO730gP gO730gi gO730eI gO730hh gO730gV gO730f7 gO730g8 gO730fn gO730eD gO730hI gO730j6 gO730ew gO730ex gO730gT gO730e8 gO730gZ gO730hc gO730hK gO730gw gO730gs gOdlKfP gOehiN gOblKfP gOgH gOdeNkF gObeNkF fofsjgi1 fodlDfP foblDfP fofsi& foeVeaeJ foeV0nk foeV03K foeV03eI foeV03e8 foeV03eG foeV03eD foeV03gB foeV03k# foeV03l# foeV03nW foxCya4pde2 foeV0K foeV0eI foeV0e8 foeV0eG foeV0eD foeV0eo foeV0ne foeV0o2 foeV0oK foeV0nO foeV0gG foeV0nr foeV0oA foeV0o8 foeV0nG foeV0gC foeV0ow foeV0nW foeV0lI foeV0eQ foeV0g5 foeV0lX foeV0lw foeV0lW foeV0ku foeV0fQ foeV0lE foeV0qp foeV0ki foeV0mt foeV0g0 foeV0mH foeV0ks " ++
  "foeV0le foeV0o6 foeV0gB foeV0k# foeV0l# foeV0fq foeV0pu foeV0nq foeV0pE foeV0nC foeV0i7 foeV0fn foeVt&pde2 foeVyHGpde2 foSuN foS0vf foS0y9x foS0yEE foS0vv foS0y8Q foS0y8R foS0wV foS0y9# foS0w8 foS0y9H foS0y9I foS0y9J foS0y9K foS0yGy foS0yGx foS0y9G foS0vq foS0w5 foS0y9y foS0y8t foS0wF foS0y9z foS0uW foS0uC foS0y9w foS0vD foS0ve foS0wR foS0w3 foS0vY !ffc2 foS0K foS0lj foS0gB foS0y5Q foS0y31 foS0eG !ffca foS0yJT foS0q3 foS0eD foS0i7 foS0yJ9 foS0kS !ffd2 foS0l# foS0e8 foS0yJD foS0nL foS0oC foS0k# !ffda foS0uM foS09 foS0eI !ffe0 gOyOi1 gOy8#1 gOig1 gOiX gOy0GfF gOy5T1 gOyJH1 !ffe8 fozY6fIeh fof5R fogMR foepR fogER foeFe3 foeNfG !fff9 yDooiyMn yDooinD yDooi#c7 #AGyamgo yamgo !10000 UeM4yNQK UeM4ywleG UeM4ywceI UeM4yx6eD UeM4ywKe8 UeM4yNJgN UeM4ywsnz UeM4yNPoo UeM4ywOoV UeM4ywyop UeM4yx2hz UeM4ywtrx !1000d UeM4ywjsb UeM4yxAxB UeM4yxMeo UeM4ywroK UeM4yxCne UeM4yxFnO UeM4yxQo2 UeM4yxPg0 UeM4ywNle UeM4yxImH UeM4ywPo6 UeM4ywXks UeM4yNOg5 UeM4ywYlW UeM4ywelX UeM4ywzku UeM4yx0lw UeM4yNLfl UeM4yxHk9 UeM4ywmjh UeM4ywLpD UeM4ywxrU UeM4ywQod UeM4yxNy93 UeM4ywVy4e UeM4ywgy94 !10028 UeM4yx5fq UeM4ywbpE UeM4yw#pu UeM4yNKnC UeM4ywanq UeM4ywfgG UeM4yNRo8 UeM4ywonr UeM4ywMnG UeM4yx3oA UeM4yx4gC UeM4yNMlI UeM4ywkow UeM4yNNeQ UeM4yxEnW UeM4yw&i7 UeM4yxKnL UeM4ywnoC UeM4ywpnk !1003c UeM4ywRjt UeM4yxJoD !1003f UeM4ywUsN UeM4ywZyAs UeM4ywqyll UeM4yxThw UeM4yxGyCc UeM4yxXzSq UeM4ywvy8X UeM4ywd#Fl UeM4yx7#Fk UeM4yxL#IG UeM4ywh#IH UeM4yxD#KP UeM4yxB#az UeM4yxVy5G UeM4yxYeE !10050 UeMBywS UeMBywT UeMBywW UeMBywi UeMBywu UeMByww UeMByx1 UeMByx8 UeMByx9 UeMByxO UeMByxR UeMByxS UeMByxU UeMByxW !10080 UeMfvyxZo5 UeMfvyxawe UeMfvyxbyCL UeMfvyxczUj UeMfvyxdzyP UeMfvyxe#Xb UeMfvyxfyRC UeMfvyxgy9A UeMfvyxh#Th UeMfvyxizdu UeMfvyxj#WJ UeMfvyxkyO5 UeMfvyxly2o UeMfvyxmz0M UeMfvyxnyJE UeMfvyxoyzz UeMfvyxpyYh UeMfvyxq#Wb UeMfvyxrzJd UeMudyxsznD UeMudyxtzn9 UeMfvyxuy8c UeMfvyxvyAa UeMfvyxw UeMudyxxyv3 UeMudyxyzzQ UeMfvyxzz0B UeMfvyx#y72 UeMfvyx& UeMfvyy0yg6 UeMfvyy1 UeMfvyy2 UeMfvyy3ld UeMfvyy4 UeMfvyy5 " ++
  "UeMfvyy6 UeMudyy8#g5 UeMfvyy9 UeMfvyyA UeMfvyyByBn UeMfvyyC UeMfvyyD UeMfvyyEzZu UeMfvyyFyvA UeMfvyyG UeMfvyyH UeMfvyyI UeMfvyyJ UeMfvyyK UeMfvyyL UeMfvyyM UeMfvyyN UeMfvyyO UeMfvyyPyF9 UeMfvyyQ UeMfvyyRtx UeMfvyyS UeMfvyyT UeMfvyyU UeMfvyyV UeMfvyyW UeMfvyyX UeMfvyyY UeMfvyyZ UeMfvyya UeMfvyyb UeMfvyyc UeMfvyydy7D UeMfvyyyzY0 UeMfvyy&yNW UeMfvyz4ycl UeMfvyz5R UeMfvyz6 UeMfvyz7#ZH UeMfvyz8 UeMfvyz9 UeMfvyzA#ney2h UeMfvyzBy2h UeMfvyzCy2hy6x UeMfvyzDyAZ UeMfvyzE UeMfvyzF UeMudyzGzNU UeMfvyzH UeMfvyzI UeMfvyzK UeMfvyzL UeMfvyzM UeMfvyzNzLY UeMfvyzO UeMfvyzP UeMfvyzQ UeMfvyzR UeMfvyzS UeMfvmcyy7 UeMfvmcyye UeMfvmcyyf UeMfvmcyyg UeMfvmcyyh UeMfvmcyyi UeMfvmcyyj UeMfvmcyyk UeMfvmcyyl UeMfvmcyym UeMfvmcyyn UeMfvmcyyo UeMfvmcyyp UeMfvmcyyq UeMfvmcyyr UeMfvmcyys UeMfvmcyyt UeMfvmcyyu UeMfvmcyyv UeMfvmcyyw UeMfvmcyyx UeMfvmcyyz UeMfvmcyy# UeMfvmcyz0 UeMfvmcyz1 UeMfvmcyz2 UeMfvmcyz3 UeMfvmcyzJ UeMfvmcyzT !10100 jDnvnDiN jDnvnDeJ jDqje2 !10107 jDTe9 jDTeE jDTeP jDTec jDTej jDTfD jDTfO jDTfC jDTfW jDThU jDTj& jDTmL jDTmq jDTlT jDTpc jDTlh jDTqB jDTl5 jDTe9fU jDTeEfU jDTePfU jDTecfU jDTejfU jDTfDfU jDTfOfU jDTfCfU jDTfWfU jDTe9g3 jDTeEg3 jDTePg3 jDTecg3 jDTejg3 jDTfDg3 jDTfOg3 jDTfCg3 jDTfWg3 jDThUg3 jDTj&g3 jDTmLg3 jDTmqg3 jDTlTg3 jDTpcg3 jDTlhg3 jDTqBg3 jDTl5g3 !10137 jDy2Hy5qsF jDy2HuOwK jDy2HuowK jDy2HrbwK jDy2Hy6wwK jDyCZxIuOwK jDyVGxIuOwK jDxIuowK jDxIrbwK XjYnYe9l6 XjYnYe9f6 XjYnYe9yCY XjYnYej XjYnYlT XjYnYejfU XjYnYejg3 XjYnYlTg3 XjYnYejxi XjYnYhUxi XjYnYlTxi XjYnYe9fUxi XjYnYejfUxi XjYnYe9g3xi XjYnYejg3xi XjYnYejwH XjYnYhUwH XjYnYlTwH XjYnYe9fUwH XjYnYejfUwH XjYnYe9g3wH XjYnYhUg3wH XjYnYlTg3wH XjYnYhUyF7 XjYzeBe9#ET XjYtse9 XjYyDVe9 XjYyCjeE XjYtseE XjYzJfeEyQJ XjYyCjeEyQJ XjYy26ej XjYy26hU XjYy26hUkmF XjYyDVhU XjYzzUhU XjYtshU XjYtsmL XjYy26lT XjYy26lTkmF XjYyDVlT XjYtslT XjYtse9fU XjYtsePfU XjYyCjejfU XjYy26ejfU XjYtsejfU XjYz1tejfU XjY#1xejfU XjYtse9g3 XjYtsejg3 XjYzMRejyF7 XjY#Y2lTyF7 Xe9f61 Xe9f61kmF XeEuv1 XePqQ1 XygQ1 X#bF1 XyCY1 X#AK1 XeEy8a1 XePy8a1 Xecy8a1 " ++
  "Xejy8a1 XzzZ1 Xzqry5q1 Xzth1 X#BB1 X#os1 XyvM1 XyvE1 Xzc21 X#fGy5q1 Xgx1 Xe9l61 X#VB1 XzkX1 #631 !10190 ji#SO1 ji#iA1 ji#S41 jiybl1 jizNLybl1 ji#V51 jizMT1 ji#HC1 ji#SF1 jizSZ1 jiqf1 jiz2S1 yvVB !101a0 XBpJmj !101d0 kGjv1yZH kGjv1#EZmg kGjv1#bWmg kGjv1z1i kGjv1yBh kGjv1we kGjv1y7D kGjv1zZy kGjv1#dA kGjv1R kGjv1y0E kGjv1yHP kGjv1yBp kGjv1zy7 kGjv1zyj kGjv1yH9 kGjv1yVC kGjv1yOB kGjv1yOYyZs kGjv1zO3 kGjv1z6C kGjv1#Vn kGjv1z6B kGjv1y#i kGjv1yHQ kGjv1ld kGjv1zeh kGjv1z0NoZ kGjv1r9 kGjv1y9A kGjv1yQc kGjv1yQI kGjv1#f# kGjv1y09 kGjv1yZstx kGjv1u& kGjv1#CO kGjv1yH3 kGjv1ztN kGjv1y8grh kGjv1yRR kGjv1zc5 kGjv1#Y1 kGjv13yB5 kGjv1s#yzq kGjv1VpZeW !10280 mS0K mS0eG mS0eM mS0y#x mS0gP mS0gg mS0eI mS0hc mS0gs mS0wO mS0hh mS0gV mS0j6 mS0f7 mS0g8 mS0fn mS0y8F mS0y4B mS0e8 mS0hI mS0y7e mS0ew mS0ex mS0gT mS0yIt mS0lB mS0jK mS0gi mS0hK !102a0 ju0K ju0#BX ju0gg ju0f7 ju0#ii ju0ew ju0zsU ju0yAs ju0j6 ju0eM ju0g8 ju0eD ju0zL8 ju0gT ju0xY ju0#TQ ju0ex ju0z0p ju0e8 ju0y4B ju0hK ju0fn ju0#fV ju0hI ju0y9v ju0eI ju0eG ju0#il ju0gV ju0zmf ju0#2Q ju0i2 ju0gP ju0zZe ju0yHv ju0#XW ju0oc ju0hg ju0z0q ju0yIt ju0#ij ju0kw ju0yEr ju0zyp ju0zyq ju0zyr ju0zsV ju0rp ju0#ik !102e0 ermfwUe2 ermfEe9 ermfEeE ermfEeP ermfEec ermfEej ermfEfD ermfEfO ermfEfC ermfEfW ermfThU ermfTj& ermfTmL ermfTmq ermfTlT ermfTpc ermfTlh ermfTqB ermfTl5 ermfTe9fU ermfTeEfU ermfTePfU ermfTecfU ermfTejfU ermfTfDfU ermfTfOfU ermfTfCfU ermfTfWfU !10300 ae40K ae40q6 ae40oK ae40nz ae40eG ae40ph ae40oD ae40ki ae40kU ae40eI ae40eo ae40nn ae40p0 ae40jK ae40oq ae40eD ae40k9 ae40kI ae40o2 ae40qE ae40sU ae40lI ae40e8 ae40zU6 ae40yGJ ae40yEB ae40tK ae40zUl ae40nZ ae40hg ae40i2 ae40zUt ae4hoe9 ae4hoej ae4hohU ae4holT !1032d ae40q3 ae40yY7r0 ae40ycir0 mr0ytP mr0yzl mr0zbH mr0zLH mr0ytS mr0#GU mr0zl6 mr0zdB mr0#ce mr0zU2 mr0zqT mr0zrR mr0zyB mr0#1v mr0zlO mr0#iY mr0#Bl mr0l5 mr0#IS mr0#NQ mr0#by mr0#nt mr0zWh mr0zk5 mr0yT6 mr0#B4 mr0fWfU !10350 akY0lB akY0u7 akY0zZj akY0yQC akY0eG akY0#sr akY0zSu akY0yAn akY0zSv akY0eI akY0zpY akY0zsh akY0zzN " ++
  "akY0yXa akY0#l& akY0#Cz akY0#J5 akY0y4u akY0eC akY0e8 akY0z34 akY0#U3 akY0#Tg akY0#rB akY0t2 akY0eD akY0k2 akY0tK akY0fQ akY0#fQ akY0#kR akY0y5U akY0yAg akY0v0 akY0pW akY0k# akY0gB akY0y7J VakY0lB VakY0yQC VakY0yAn VakY0yXa VakY0y4u !10380 m90ytu m90ol m90zZo m90if m90oU m90mt m90nk m90rd m90zhN m90xq m90u1 m90jr m90lm m90qs m90ot m90zMn m90j9 m90sO m90#N7 m90kJ m90rU m90ybM m90#H1 m90#Ib m90#cN m90n6 m90eQ m90eI m90e8 m90yHu !1039f m9nvy0U ajd1K ajd1eI ajd1e8 ajd1eo ajd1o2 ajd1gR ajd1pS ajd1qc ajd1i3 ajd1hz ajd1vc ajd1gC ajd1nW ajd1gN ajd1oo ajd1op ajd1j2 ajd1fl ajd1gu ajd1kh ajd1g5 ajd1lw ajd1g0 ajd1mH ajd1ks ajd1gB ajd1jT ajd1u# ajd1fq ajd1nq ajd1g1 ajd1gG ajd1jt ajd1i0 ajd1kx ajd1fQ !103c8 ajd1yv& ajd1yw0 ajd1yw1 ajd1#p9 ajd1zLJ ajd1zLK ajd1yzc ajd1z0g ajdnvy0U ajdTe9 ajdTeE ajdThU ajdTj& ajdTfU !10400 hd50g2eI hd50g2eG hd50g2K hd50g2re hd50g2eD hd50g2k2 hd50iDeI hd50iDeG hd50iDK hd50iDre hd50iDeD hd50iDk2 hd50rf hd50y4M hd50t1 hd50y2L hd50gi hd50ug hd50y09 hd50y21 hd50y0R hd50y63 hd50y13 hd50yE7 hd50yRs hd50tK hd50wb hd50vP hd50y55 hd50sU hd50y5W hd50oq hd50yAp hd50qE hd50nn hd50p0 hd50jK hd50rr hd50y4H hd50yCm hd30g2eI hd30g2eG hd30g2K hd30g2re hd30g2eD hd30g2k2 hd30iDeI hd30iDeG hd30iDK hd30iDre hd30iDeD hd30iDk2 hd30rf hd30y4M hd30t1 hd30y2L hd30gi hd30ug hd30y09 hd30y21 hd30y0R hd30y63 hd30y13 hd30yE7 hd30yRs hd30tK hd30wb hd30vP hd30y55 hd30sU hd30y5W hd30oq hd30yAp hd30qE hd30nn hd30p0 hd30jK hd30rr hd30y4H hd30yCm k30#D0 k30yeT k30zoe k30w& k30#cY k30nG k30#Z2 k30yOu k30#qK k30zhd k30y&3 k30zM7 k30zZi k30#m2 k30#cV k30yh2 k30xI k30zm9 k30#o3 k30zd4 k30ztz k30z#r k30zk3 k30yQi k30jI k30ys# k30ia k30yg6 k30ps k30re k30#KR k30j9 k30y0Z k30ytH k30va k30ev k30#AC k30#As k30y8c k30ywC k30yv2 k30gr k30y01 k30y6h k30yvG k30ww k30yTD k30#qb kv0fE kv0gu kv0gC kv0hz kv0qc kv0if kv0zMG kv0fq kv0gG kv0#Tv kv0k1 kv0yOd kv0gR kv0kh kv0yGn kv0yTr kv0zrD kv0z#i kv0#7r kv0kf kv0fQ kv0gB kv0K kv0eG kv0eI kv0eD kv0e8 kv0h5 kv0ka kv0k2 !104a0 kvEgx kvEe9 kvEeE kvEeP kvEec " ++
  "kvEej kvEfD kvEfO kvEfC kvEfW !104b0 iC50K iC50hY iC50kJ iC50re iC50yOF iC50ic iC50yQk iC50eG iC50yQq iC50fQ iC50yTA iC50eI iC50eo iC50yQl iC50yEO iC50g1 iC50g0 iC50g5 iC50eD iC50yYd iC50fl iC50yQm iC50gG iC50i0 iC50gC iC50yQn iC50mM iC50yQo iC50qZ iC50k1 iC50e8 iC50i7 iC50if iC50k7 iC50jt iC50oE !104d8 iC30K iC30hY iC30kJ iC30re iC30yOF iC30ic iC30yQk iC30eG iC30yQq iC30fQ iC30yTA iC30eI iC30eo iC30yQl iC30yEO iC30g1 iC30g0 iC30g5 iC30eD iC30yYd iC30fl iC30yQm iC30gG iC30i0 iC30gC iC30yQn iC30mM iC30yQo iC30qZ iC30k1 iC30e8 iC30i7 iC30if iC30k7 iC30jt iC30oE !10500 kr0K kr0q6 kr0u8 kr0nZ kr0nz kr0y8M kr0y2t kr0uI kr0eG kr0rt kr0tT kr0yDL kr0ki kr0eI kr0rx kr0oK kr0jx kr0ztm kr0le kr0lW kr0g5 kr0vy kr0eD kr0k9 kr0y93 kr0pE kr0ybD kr0o8 kr0kI kr0lI kr0kU kr0e8 kr0ph kr0y2J kr0gw kr0oD kr0q5 kr0p5 kr0zaz kr0yEB !10530 jbjZ0ytw jbjZ0y0B jbjZ0yDK jbjZ0yPd jbjZ0yCe jbjZ0#sT jbjZ0yRD jbjZ0#sq jbjZ0#bT jbjZ0ic jbjZ0#r6 jbjZ0oE jbjZ0zkv jbjZ0i0 jbjZ0yUr jbjZ0zkq jbjZ0#ot jbjZ0zSr jbjZ0vC jbjZ0zlX jbjZ0znF jbjZ0zuh jbjZ0zeI jbjZ0#Ga jbjZ0yue jbjZ0z3Z jbjZ0n3 jbjZ0zJa jbjZ0yWP jbjZ0y4d jbjZ0#6H jbjZ0zSw jbjZ0#TS jbjZ0zlM jbjZ0ia jbjZ0#gT jbjZ0zWn jbjZ0zSt jbjZ0yOo jbjZ0y1b jbjZ0zb9 jbjZ0y9B jbjZ0#TM jbjZ0#lN jbjZ0#dZ jbjZ0yb& jbjZ0zl8 jbjZ0zJZ jbjZ0yOd jbjZ0#qI jbjZ0yGP jbjZ0zoz !1056f jbjZz43e2 iO50K iO50y2Z iO50q6 iO50u8 iO50nZ iO50nz iO50y2t iO50uI iO50eG iO50rt iO50gR !1057c iO50fQ iO50uU iO50eI iO50yTN iO50rx iO50eo iO50g1 iO50mu iO50le iO50lW iO50vy iO50eD iO50k9 iO50od iO50pE !1058c iO50o8 iO50kI iO50lI iO50kU iO50e8 iO50ph iO50y2J !10594 iO50gw iO50oD !10597 iO30K iO30y2Z iO30q6 iO30u8 iO30nZ iO30nz iO30y2t iO30uI iO30eG iO30rt iO30gR !105a3 iO30fQ iO30uU iO30eI iO30yTN iO30rx iO30eo iO30g1 iO30mu iO30le iO30lW iO30vy iO30eD iO30k9 iO30od iO30pE !105b3 iO30o8 iO30kI iO30lI iO30kU iO30e8 iO30ph iO30y2J !105bb iO30gw iO30oD !10600 UK1yrP UK1yrQ UK1yrR UK1yrS UK1yrT UK1yrU UK1yrV UK1yrW UK1yrX UK1yrY UK1yrZ UK1yra UK1yrb UK1yrc UK1yrd UK1yre UK1yrf UK1yrg UK1yrh UK1yri " ++
  "UK1yrj UK1yrk UK1yrl UK1yrm UK1yrn UK1yro UK1yrp UK1yhU UK1yrq UK1yrr UK1yrs UK1yrt UK1yru UK1yrv UK1yrw UK1yrx UK1yry UK1yrz UK1yr# UK1yr& UK1ys0 UK1ys1 UK1ys2 UK1ys3 UK1ys4 UK1ys5 UK1ys6 UK1ys7 UK1ys8 UK1ys9 UK1ysA UK1ysB UK1ysC UK1ysD UK1ysE UK1ysF UK1ysG UK1ysH UK1ysI UK1ysJ UK1ysK UK1ysL UK1ysM UK1ysN UK1ysO UK1ysP UK1ysQ UK1ysR UK1ysS UK1ysT UK1ysU UK1yiA UK1ysV UK1ysW UK1yij UK1ysX UK1ysY UK1ysZ UK1ysa UK1yiw UK1ysb UK1ysc UK1ysd UK1yse UK1ysf UK1yKt UK1yKu UK1yKv UK1yKw UK1yKx UK1yKy UK1yKz UK1yK# UK1yK& UK1ylo UK1ylp UK1yL0 UK1yL1 UK1yL2 UK1ylr UK1yls UK1ylt UK1yL3 UK1yL4 UK1yL5 UK1yL6 UK1yL7 UK1yL8 UK1yL9 UK1yLA UK1yLB UK1yLC UK1yLD UK1yLE UK1yLF UK1yLG UK1yLH UK1yLI UK1yLJ UK1yLK UK1ylv UK1yLL UK1yLM UK1yLN UK1yLO UK1yLP UK1yLQ UK1yLR UK1yLS UK1yLT UK1yLU UK1yLV UK1yLW UK1yLX UK1yLY UK1yLZ UK1yLa UK1yLb UK1yLc UK1yLd UK1yLe UK1yLf UK1yLg UK1yLh UK1yLi UK1yLj UK1yLk UK1yLl UK1yLm UK1yLn UK1yLo UK1yLp UK1yLq UK1yLr UK1yLs UK1yLt UK1yLu UK1yLv UK1yLw UK1yLx UK1yma UK1ymc UK1yme UK1ymg UK1ymi UK1ymk UK1ymm UK1ymo UK1ymq UK1yms UK1ymu UK1ymx UK1ymz UK1ym& UK1yn1 UK1yn3 UK1yn5 UK1yn7 UK1yn9 UK1yLy UK1yLz UK1yL# UK1yL& UK1yM0 UK1yM1 UK1yM2 UK1yM3 UK1yM4 UK1yM5 UK1yM6 UK1yM7 UK1yM8 UK1yM9 UK1yMA UK1yMB UK1yMC UK1yMD UK1yME UK1yMF UK1yMG UK1yMH UK1yMI UK1yMJ UK1yoX UK1yoY UK1yoZ UK1yoa UK1yob UK1yoc UK1yod UK1yoe UK1yof UK1yog UK1yoh UK1yoi UK1yoj UK1yok UK1yol UK1yom UK1yon UK1yoo UK1yop UK1yoq UK1yor UK1yos UK1yot UK1you UK1yov UK1yow UK1yox UK1yoy UK1yoz UK1yo# UK1yo& UK1yp0 UK1yp1 UK1yp2 UK1yp3 UK1yp4 UK1yp5 UK1yp6 UK1yp7 UK1yp8 UK1yp9 UK1ypA UK1ypB UK1ypC UK1ypD UK1ypE UK1ypF UK1ypG UK1ypH UK1ypI UK1ypJ UK1ypK UK1ypL UK1ypM UK1ypN UK1ypO UK1ypP UK1ypQ UK1ypR UK1ypS UK1ypT UK1ypU UK1ypV UK1ypW UK1ypX UK1ypY UK1ypZ UK1ypa UK1ypb UK1ypc UK1ypd UK1ype UK1ypf UK1ypg UK1yph UK1ypi UK1ypj UK1ypk UK1ypl UK1ypm UK1ypn UK1ypo UK1ypp UK1ypq UK1ypr UK1yps UK1ypt UK1ypu UK1ypv UK1ypw UK1ypx UK1ypy UK1ypz UK1yp# UK1yp& UK1yq0 UK1yq1 UK1yq2 UK1yq3 UK1yq4 UK1yq5 UK1yq6 " ++
  "UK1yq7 UK1yq8 UK1yq9 UK1yqA UK1yqB UK1yqC !10740 UK1yqDK UK1yqEeM UK1yqFgg UK1yqGeG UK1yqHiB UK1yqIgi UK1yqJhh UK1yqKgV UK1yqLf7 UK1yqMzr7 UK1yqNzr8 UK1yqOzr9 UK1yqPzrA UK1yqQhc UK1yqRhK UK1yqSgw UK1yqTi4 UK1yqUysi UK1yqVy#7 UK1yqWzLg UK1yqXzVR UK1yqYrx !10760 UK1yqZ UK1yqa UK1yqb UK1yqc UK1yqd UK1yqe UK1yqf UK1yqg !10780 eL035h5 eL0mloBlp eL0mlf6oBlp eL03lj eL035eM eL03eM2eg !10787 eL03tJm0 eL03tJm02kdeg eL03tJm02ny eL03y6Lm0 eL03gg2j1 eL03gg2eg eL03gg2egOj1 eL03hGeG eL03kQhGg9eG eL03yCtm0 eL03yaZld eL035gP eL03gP2eg eL035gP2eg eL03gi2eW eL035gi eL03y3Q2eg eL03oIhh2eWOeg eL03yVRm0 eL03yVbm0 eL03f72sP eL035f72sP eL03f72kdegOsP eL03y7y eL03y7y2kdeg eL03fugw eL03fugw2sP eL03eD2eW eL035kS eL03kQi4 eL03j6 eL03fuew2g2oZ eL03fuew2g2oZOkdeg eL03ew2j1 eL03ew2vS eL035ew eL03ydsm02ny eL03yAIm0 eL03yAIm02kdeg eL03yA5m0 eL03gT2kdeg eL03gZ2beg !107b2 eL035gw eL0lUi12eW eL0hGlUi12eW eL0yBLsS eL0yCNsS eL0yUwsS eL0yMlsS eL0kdsS2kdeg eL03ex2ny !10800 jR4K jR4eG jR4eI jR4eD jR4e8 jR4hz !10808 jR4sb !1080a jR4eo jR4oK jR4ne jR4nO jR4o2 jR4g1 jR4jx jR4ij jR4oa jR4nA jR4g0 jR4le jR4mH jR4o6 jR4ks jR4g5 jR4lW jR4lX jR4ku jR4lw jR4fl jR4k9 jR4jh jR4pD jR4rU jR4fq jR4pE jR4pu jR4nC jR4nq jR4gG jR4o8 jR4nr jR4nG jR4oA jR4gC jR4lI jR4ow jR4eQ jR4nW jR4i7 jR4nL jR4oC jR4nk !10837 jR4qc jR4y2J !1083c jR4jt !1083f jR4sN m6l&0pM m6l&0pO m6l&0pn m6l&0tG m6l&0ki m6l&0kf m6l&0r5 m6l&0qG m6l&0sy m6l&0qe m6l&0pp m6l&0qL m6l&0ot m6l&0j9 m6l&0px m6l&0rg m6l&0k9 m6l&0pw m6l&0w7 m6l&0rV m6l&0lm m6l&0pe !10857 m6l&l81 m6l&Te9 m6l&TeE m6l&TeP m6l&ThU m6l&Tj& m6l&Te9fU m6l&Te9g3 m6l&ThUg3 lx0pM lx0pO lx0pn lx0tG lx0ki lx0kf lx0r5 lx0qG lx0sy lx0qe lx0pp lx0qL lx0ot lx0eAj9 lx0j9 lx0px lx0rg lx0k9 lx0pw lx0w7 lx0rV lx0lm lx0pe lxoYyCz lxngyCz lxTe9 lxTeE lxTeP lxTec lxTej lxThU lxTj& kt0eApM kt0pM kt0eApO kt0pO kt0pn kt0tG kt0eAki kt0ki kt0kf kt0r5 kt0qG kt0sy kt0eAqe kt0qe kt0eApp kt0pp kt0eAqL kt0qL kt0eAot kt0ot kt0eAj9 kt0j9 kt0px kt0rg kt0k9 kt0pw kt0w7 kt0rV kt0eAlm kt0lm kt0pe !108a7 ktTe9 ktTeE ktTeP " ++
  "ktTec ktzJFTec ktTej ktThU ktTj& ktTe9fU !108e0 n70pM n70pO n70pn n70zLP n70ki n70kf n70ygv n70qG n70sy n70qe n70pp n70qL n70ot n70j9 n70px n70yNH n70k9 n70pw n70w7 !108f4 n70lm n70pe !108fb n7Te9 n7Tej n7ThU n7Tj& n7Te9fU mX0ytm mX0y0B mX0zZn mX0zMS mX0ki mX0yJA mX0#sN mX0ySi mX0xq mX0u1 mX0jr mX0zsB mX0ot mX0j9 mX0#S3 mX0kJ mX0k9 mX0ybM mX0yGo mX0#Ke mX0lm mX0pJ mXTe9 mXThU mXTj& mXTe9fU mXTeE mXTeP !1091f mXnvnD mx0K mx0eM mx0gP mx0gg mx0eG mx0gZ mx0eI mx0gw mx0gV mx0f7 mx0g8 mx0fn mx0eD mx0ew mx0y9v mx0gT mx0e8 mx0iB mx0j6 mx0ex mx0yIt mx0lB mx0jK mx0yEj mx0y4B mx0hB !1093f mxoBe2 !10980 fplu0K fplu0eG fplu0eI fplu0eD fplu0gB fplu0i7 fplu0gu fplu0yzU fplu0fl fplu0g0 fplu0g5 fplu0yXJ fplu0lW fplu0yXX fplu0fq fplu0yaU fplu0g1 fplu0if fplu0uU fplu0gG fplu0ybL fplu0o8 fplu0eo fplu0od fplu0gC fplu0ydi fplu0lI fplu0ydu fplu0eQ fplu0gN fpluB#lS fpluB#lT fph10K fph10eG fph10eI fph10eD fph10gB fph10i7 fph10gu fph10fl fph10g0 fph10g5 fph10lW fph10fq fph10g1 fph10if fph10uU fph10gG fph10kngG fph10o8 fph10eo fph10od fph10gC fph10lI fph10eQ fph10gN !109bc fph1garqty fph1gae9f6 fph1vl#KI fph1vlzkL fph1Te9 fph1TeE fph1TeP fph1Tec fph1Tej fph1TfD fph1TfO fph1TfC fph1TfW fph1ThU fph1Tj& fph1TmL fph1Tmq fph1TlT fph1Tpc fph1Tlh !109d2 fph1Te9fU fph1TeEfU fph1TePfU fph1TecfU fph1TejfU fph1TfDfU fph1TfOfU fph1TfCfU fph1TfWfU fph1Te9g3 fph1TeEg3 fph1TePg3 fph1Tecg3 fph1Tejg3 fph1TfDg3 fph1TfOg3 fph1TfCg3 fph1TfWg3 fph1ThUg3 fph1Tj&g3 fph1TmLg3 fph1Tmqg3 fph1TlTg3 fph1Tpcg3 fph1Tlhg3 fph1TqBg3 fph1Tl5g3 fph1Te9fUg3 fph1TeEfUg3 fph1TePfUg3 fph1TecfUg3 fph1TejfUg3 fph1TfDfUg3 fph1TfOfUg3 fph1TfCfUg3 fph1TfWfUg3 fph1gae9#gF fph1gaeEty fph1gaePty fph1gaecty fph1gaejty fph1gafDty fph1gafOty fph1gafCty fph1gafWty fph1gahUty iV0K iVG1eI iVG1e8 iVG1fJew !10a05 iVG1eG iVG1eD !10a0c iVGqMe2 iV1eBfteH iV1ja iV1l9 iV0eo iV0if iV0gR iV0k7 !10a15 iV0i3 iV0ic iV0hz !10a19 iV0ih iV0jo iV0ke iV0jp iV0kp iV0kN iV0gC iV0j2 iV0gN iV0k1 iV0g5 iV0fl iV0jS iV0gu iV0kP iV0g0 iV0gB iV0fq iV0g1 iV0jT iV0i0 " ++
  "iV0kx iV0gG iV0jt iV0fQ iV0yEF iV0#fi iV0ye& iV0#lP !10a38 iV1fFc iV1z1w iV1eJeH !10a3f iVkk iVEe9 iVEeE iVEeP iVEec iVThU iVTj& iVTe9fU iVTe9g3 iVgae9f6 !10a50 iVgSeJ iVgS3fG iVgSfG iVgSy0PfF iVgSzy9 iVgSy82 iVgSmF iVgSeBmF iVgSyEc !10a60 ahAim0ki ahAim0qL ahAim0qG ahAim0ot ahAim0w7 ahAim0kf ahAim0lm ahAim0rV ahAim0pO ahAim0pe ahAim0yH8 ahAim0pp ahAim0j9 ahAim0zoF ahAim0pw ahAim0px ahAim0rt ahAim0fE ahAim0yNH ahAim0zMm ahAim0pn ahAim0tG ahAim0zb0 ahAim0sy ahAim0ygv ahAim0zMp ahAim0qe ahAim0#cP ahAim0#cU ahAimTe9 ahAimTlT ahAimg6lk agKim0jw agKim0h# agKim0fz agKim0em agKim0lP agKim0kf agKim0zUn agKim0l7 agKim0kK agKim0je agKim0zUm agKim0jr agKim0iZ agKim0iU agKim0lg agKim0zUo agKim0l3 agKim0fE agKim0kJ agKim0lr agKim0zaD agKim0on agKim0n6 agKim0kz agKim0q4 agKim0wQ agKim0eq agKim0nj agKim0r4 agKimTe9 agKimThU agKimTj& !10ac0 jl0pM jl0pO jl0yNl jl0pn jl0zbB jl0tG jl0ki jl0kf jl1mm jl0r5 jl0#sm jl0zlL jl0zlV jl0qG jl0sy jl0qe jl0pp jl0#oo jl0yUC jl0qL jl0zMq jl0#cM jl0ot jl0j9 jl0px jl0rg jl0yrN jl0k9 jl0rt jl0pw jl0w7 jl0#p5 jl0#Gl jl0rV jl0lm jl0#XD jl0pe jlohe2c jlohe2eH !10aeb jlTe9 jlTej jlThU jlTj& jlTe9fU jlgSj7 jlgSyCz jlgSeBeJxyeJ jlgSeJxyeJ jlgSeJ jlgSeEfZ jlgSiNuN !10b00 jQ0K jQ0h5 jQ0y5e jQ0yrI jQ0lB jQ0yML jQ0lj jQ0yMV jQ0eG jQ0ka jQ0eD jQ0k2 jQ0eI jQ0hg jQ0e8 jQ0i2 jQ0oK jQ0y2J jQ0ygF jQ0#pD jQ0tT jQ0yDH jQ0p5 jQ0u8 jQ0rx jQ0lI jQ0kU jQ0nz jQ0y2t jQ0y5C jQ0k9 jQ0rt jQ0q6 jQ0y5s jQ0yXg jQ0#4C jQ0#4B jQ0lW jQ0yFr jQ0#5m jQ0le jQ0zfX jQ0#rc jQ0q3 jQ0ph jQ0pE jQ0jx jQ0o8 jQ0oD jQ0kI jQ0q5 jQ0#Ul jQ0#XC jQ0ki !10b39 jQohe2 y57eEfZfge9eJgS 3eEfZfge9eJgS gveEfZfge9eJgS gve9eJfgeEfZgS gveEyb3fge9ftgS gve9ftfgeEyb3gS jGmJ0pM jGmJ0pO jGmJ0pn jGmJ0tG jGmJ0ki jGmJ0kf jGmJ0r5 jGmJ0qG jGmJ0sy jGmJ0qe jGmJ0pp jGmJ0qL jGmJ0ot jGmJ0j9 jGmJ0px jGmJ0rg jGmJ0k9 jGmJ0pw jGmJ0w7 jGmJ0rV jGmJ0lm jGmJ0pe !10b58 jGmJTe9 jGmJTeE jGmJTeP jGmJTec jGmJThU jGmJTj& jGmJTe9fU jGmJTe9g3 jGjN0pM jGjN0pO jGjN0pn jGjN0tG jGjN0ki jGjN0yfv jGjN0r5 jGjN0qG jGjN0sy jGjN0qe jGjN0pp jGjN0qL " ++
  "jGjN0yWe jGjN0j9 jGjN0px jGjN0k9 jGjN0pw jGjN0lm jGjN0pe !10b78 jGjNTe9 jGjNTeE jGjNTeP jGjNTec jGjNThU jGjNTj& jGjNTe9fU jGjNTe9g3 mYjN0pM mYjN0pO mYjN0pn mYjN0tG mYjN0ki mYjN0yfv mYjN0r5 mYjN0qG mYjN0qe mYjN0pp mYjN0qL mYjN0yWe mYjN0j9 mYjN0px mYjN0k9 mYjN0pw mYjN0lm mYjN0pe !10b99 mYjNl8e2 mYjNful8e2 mYjNecfZ2jf mYjNecfZ2eJ !10ba9 mYjNTe9 mYjNTeE mYjNTeP mYjNTec mYjNThU mYjNTj& mYjNTe9fU !10c00 ai50kcK ai50mBK ai50mBlj ai50kceI ai50mBeI ai50mBeG ai50kceD ai50kckS ai50mBkS ai50kcoF ai50mBoF ai50kcyMT ai50mByMT ai50kcy5a ai50mBy5a ai50kcyMW ai50mByMW ai50kcwg ai50mBwg ai50kcyt1 ai50kcy34 ai50mBy34 ai50kcrf ai50mBrf ai50kcyMa ai50mByMa ai50kcyMX ai50mByMX ai50kcyYc ai50mByYc ai50kcpL ai50mBpL ai50kcyt3 ai50kczUG ai50kcp0 ai50kclB ai50kcy00 ai50mBy00 ai50kcy6f ai50mBy6f ai50kcy6e ai50mBy6e ai50kcy0c ai50mBy0c ai50mBr6 ai50kcrr ai50mByt4 ai50kcy6g ai50kcyFy ai50kcyDg ai50kcy2& ai50mBy2& ai50kcy2V ai50mBy2V ai50kcyDr ai50mByDr ai50kcyF& ai50mByF& ai50kcyA& ai50mByA& ai50kcyt5 ai50kcqf ai50kcyt7 ai50kcjI ai50mBjI ai50kcoq ai50mBoq ai50kcmn ai50mBmn ai50kcyMZ ai50mByMZ ai50kcy8f ai50kcy#1 !10c80 agD50K agD50h5 agD50yCe agD50yMm agD50y2& agD50y6e agD50yQf agD50yQg agD50O agD50eG agD50yBmeG agD50ka agD50tK agD50yQh agD50yQj agD50tL agD50eI agD50hg agD50yQr agD50y0b agD50y03 agD50yfT agD50nn agD50yQt agD50p0 agD50jK agD50y0c agD50eD agD50k2 agD50y8TkS agD50y9RkS agD50yYb agD50y6g agD50yQv agD50qE agD50iDqE agD50sU agD50yR7 agD50rF agD50y6f agD50yR9 agD50y0a agD50e8 agD50i2 agD50y8Tnu agD50y9Rnu agD50yCl agD50y34 agD50yRE agD50yQz1 agD50yAU !10cc0 agD30K agD30h5 agD30yCe agD30yMm agD30y2& agD30y6e agD30yQf agD30yQg agD30O agD30eG agD30yBmeG agD30ka agD30tK agD30yQh agD30yQj agD30tL agD30eI agD30hg agD30yQr agD30y0b agD30y03 agD30yfT agD30nn agD30yQt agD30p0 agD30jK agD30y0c agD30eD agD30k2 agD30y8TkS agD30y9RkS agD30yYb agD30y6g agD30yQv agD30qE agD30iDqE agD30sU agD30yR7 agD30rF agD30y6f agD30yR9 agD30y0a agD30e8 agD30i2 agD30y8Tnu agD30y9Rnu agD30yCl agD30y34 agD30yRE " ++
  "agD30yQz1 agD30yAU !10cfa agDTe9 agDTej agDThU agDTlT agDTe9fU agDTe9g3 jqjm0K jqjm0gu jqjm0fl jqjm0gC jqjm0jo jqjm0hz jqjm0i3 jqjm0fQ jqjm0if jqjm0kh jqjm0gN jqjm0jp jqjm0fq jqjm0oe jqjm0jt jqjm0gG jqjm0i0 jqjm0eo jqjm0gR jqjm0g1 jqjm0g0 jqjm0g5 jqjm0i7 jqjm0yUGi7 jqjm0gB jqjm0yUGgB jqjm0hv jqjm0ih jqjm0jT jqjmGK jqjmGeI jqjmGe8 jqjmGeG jqjmGeD jqjme2#Mx jqjme2g5zoK jqjm1zdZ jqjm1#b8 jqjm1#bI jqjm1#bV !10d30 jqjmEgx jqjmEe9 jqjmEeE jqjmEeP jqjmEec jqjmEej jqjmEfD jqjmEfO jqjmEfC jqjmEfW !10e60 m7Ee9 m7EeE m7EeP m7Eec m7Eej m7EfD m7EfO m7EfC m7EfW m7ThU m7Tj& m7TmL m7Tmq m7TlT m7Tpc m7Tlh m7TqB m7Tl5 m7Te9fU m7TeEfU m7TePfU m7TecfU m7TejfU m7TfDfU m7TfOfU m7TfCfU m7TfWfU m7gae9f6 m7gae9l6 m7gae9rb m7gaeEuv !10e80 kC0zUF kC0q6 kC0k9 kC0yGJ kC0kU kC0o8 kC0pk kC0z3F kC0z39 kC0uU kC0qc kC0on kC0yAm kC0fq kC0um kC0jt kC0hz kC0y9l kC0lm kC0lg kC0lr kC0gC kC0oD kC0yRD kC0#ov kC0kh kC0jT kC0jTkmF kC0lP kC0jr kC0zo9 kC0tS kC0h# kC0y8D kC0j9 kC0ux kC0kf kC0y4M kC0yCm kC0zdi kC0y5V kC0rF !10eab kCVhfe2 kCVsie2 kCyTBe2 !10eb0 kC0h#2eJc kC0y5V2hZc !10f00 ahJ0pM ahJ0eApM ahJ0pO ahJ0eApO ahJ0pn ahJ0ki ahJ0eAki ahJ0kf ahJ0r5 ahJ0qG ahJ0qe ahJ0pp ahJ0qL ahJ0ot ahJ0j9 ahJ0eAj9 ahJ0eAj92ehj1 ahJ0px ahJ0rg ahJ0kmrg ahJ0k9 ahJ0pw ahJ0eApw ahJ0eApw2ehj1 ahJ0#JM ahJ0lm ahJ0pe ahJ0eApe ahJ0eApe2ehj1 ahJTe9 ahJTeE ahJTeP ahJTec ahJTej ahJThU ahJTj& ahJTmL ahJTe9fU ahJgae9f6 ahJWywH !10f30 hJ0pM hJ0pO hJ0pn hJ0ki hJ0kf hJ0r5 hJ0qG hJ0qe hJ0pp hJ0qL hJ0ot hJ0j9 hJ0px hJ0rg hJ0k9 hJ0pw hJ0#JL hJ0lm hJ0pe hJ0zX7 hJ0yV5 hJndlm hJVeJeH hJVeEfZeH hJVeJc hJVeEfZc hJVk&c hJVk&eH hJVegc hJVegeH hJVg2egeH hJVrVeH hJVeWeH hJTe9 hJThU hJTj& hJTe9fU hJgSeEehy2Y hJgSeEehy2Y2fZ hJgSfG2eJ hJgSeEpQ2fZ hJgSf6fG2eJ !10f70 anK0pM anK0pO anK0zbQ anK0kf anK0r5 anK0eAqG anK0qe anK0pp anK0qL anK0ot anK0j9 anK0px anK0k9 anK0pw anK0rV anK0lm anK0pe anK0yV5 anKVeJc anKVeJeH anKVeEfZc anKVeEfZeH anKgSfF anKgSeEy2Y anKgSeEfZ anKgSecfZ !10fb0 me0pM me03pM me0pO me0pn me0tG me0ki me0kf me0zJQkf me0r5 me0qG me0qe me0pp " ++
  "me0qL me0ot me0j9 me0px me0rg me0k9 me0rV me0lm me0pe meTe9 meTeE meTeP meTec meThU meTj& meTe9fU !10fe0 no0pM no0pO no0pn no0tG no0ki no0kf no0r5 no0qG no0sy no0qe no0pp no0qL no0ot no0j9 no0px no0rg no0k9 no0pw no0w7 no0rV no0lm no0pe noW#sY !11000 f&1lb f&1ja f&1l9 f&1y14 f&1y2B f&0K f&0h5 f&0eI f&0hg f&0e8 f&0i2 f&0fJew f&0fJkw f&0fJf7 f&0fJlV f&0eG f&0hY f&0eD f&0hw f&0eo f&0if f&0gR f&0k7 f&0hv f&0i3 f&0ic f&0hz f&0lN f&0ih f&0jo f&0ke f&0jp f&0kp f&0kN f&0gC f&0j2 f&0gN f&0k1 f&0g5 f&0fl f&0jS f&0gu f&0kP f&0g0 f&0gB f&0fq f&0g1 f&0jT f&0i0 f&0kx f&0gG f&0fQ f&0mu f&0afdy1H f&0afdoe f&0afdy4C f&G1h5 f&G1y##h5 f&G1eI f&G1hg f&G1e8 f&G1i2 f&G1fJew f&G1fJkw f&G1fJf7 f&G1fJlV f&G1eG f&G1hY f&G1eD f&G1hw f&kk f&mF f&eBmF f&gSeJ f&gSeBeJ f&gSiN f&gSy0PfF f&gSy82 !11052 f&Te9 f&TeE f&TeP f&Tec f&Tej f&TfD f&TfO f&TfC f&TfW f&ThU f&Tj& f&TmL f&Tmq f&TlT f&Tpc f&Tlh f&TqB f&Tl5 f&Te9fU f&Te9g3 f&Egx f&Ee9 f&EeE f&EeP f&Eec f&Eej f&EfD f&EfO f&EfC f&EfW f&1afdkk f&0afdiDeG f&0afdiDeD f&G1afdiDeG f&G1afdiDeD f&0afdmu !1107f f&TxA iT1lb iT1ja iT1l9 iT0K iT0h5 iT0eI iT0hg iT0e8 iT0i2 iT0eG iT0hY iT0eD iT0hw iT0eo iT0if iT0gR iT0k7 iT0hv iT0i3 iT0ic iT0hz iT0lN iT0ih iT0jo iT0ke iT0jp iT0yPi iT0kp iT0um iT0kN iT0gC iT0j2 iT0gN iT0k1 iT0g5 iT0fl iT0jS iT0gu iT0kP iT0g0 iT0gB iT0fq iT0g1 iT0jT iT0i0 iT0kx iT0gG iT0fQ iTG1h5 iTG1eI iTG1hg iTG1e8 iTG1i2 iTG1eG iTG1hY iTG1eD iTG1hw iT1kk iT1nR iToh1 iTzUZ1 iTT1 iTl8e2 iTeBl8e2 iTmF iTeBmF iTG1fJew !110cd iTT1c !110d0 lZlY0ybO lZlY0kz lZlY0yzh lZlY0z1P lZlY0zLI lZlY0yRm lZlY0yWM lZlY0#3D lZlY0zrS lZlY0yFL lZlY0lJ lZlY0#Bj lZlY0yAf lZlY0#IN lZlY0fz lZlY0yTv lZlY0zlE lZlY0#7v lZlY0re lZlY0zTv lZlY0yDi lZlY0yI& lZlY0y4G lZlY0tL lZlY0yWJ !110f0 lZlYEgx lZlYEe9 lZlYEeE lZlYEeP lZlYEec lZlYEej lZlYEfD lZlYEfO lZlYEfC lZlYEfW !11100 iG1lb iG1ja iG1l9 iG0h5 iG0eI iG0e8 iG0eG iG0y7W iG0yU8 iG0y3E iG0yS7 iG0y8O iG0yBY iG0yOm iG0yTc iG0zlT iG0yYS iG0yew iG0yIu iG0yPh iG0yPk iG0#5l iG0xh iG0y54 iG0yPP iG0zMk iG0y1N iG0y8h iG0yZU iG0y5l " ++
  "iG0y#y iG0yEk iG0#rb iG0y2K iG0y4g iG0y3o iG0y5L iG0y9T iG0sZ iGG1K iGG1eI iGG1hg iGG1e8 iGG1i2 iGG1eG iGG1hY iGG1eD iGG1hw iGG1y4H iGeDe2 iGhwe2 iGkk iGzxf !11136 iGEgx iGEe9 iGEeE iGEeP iGEec iGEej iGEfD iGEfO iGEfC iGEfW iGl8e2 iGmF iGeBmF iGmZe2 iG0yV9 iGG1h5 iGG1uI iG0yfb !11150 l00K l00eI l00e8 l00eG l00eD l00eo l00if l00gR l00k7 l00i3 l00ic l00hz l00lN l00ih l00jo l00ke l00jp l00kp l00kN l00gC l00j2 l00gN l00k1 l00g5 l00fl l00jS l00gu l00kP l00g0 l00fq l00g1 l00jT l00gG l00fQ l00oe l01nR l0oh1 l0l8e2 l0Wyc0 !11180 gn1lb gn1ja gn1l9 gn0K gn0h5 gn0eI gn0hg gn0e8 gn0i2 gn0fJew gn0fJkw gn0fJf7 gn0fJlV gn0eG gn0hY gn0eD gn0hw gn0eo gn0if gn0gR gn0k7 gn0hv gn0i3 gn0ic gn0hz gn0lN gn0ih gn0jo gn0ke gn0jp gn0kp gn0kN gn0gC gn0j2 gn0gN gn0k1 gn0g5 gn0fl gn0jS gn0gu gn0kP gn0g0 gn0gB gn0fq gn0g1 gn0mu gn0jT gn0i0 gn0kx gn0gG gn0fQ gnG1h5 gnG1eI gnG1hg gnG1e8 gnG1i2 gnG1fJew gnG1fJkw gnG1fJf7 gnG1fJlV gnG1eG gnG1hY gnG1eD gnG1hw gn1kk gn1pj gn1y14 gn1y2B gnrN gnmF gneBmF gnoh1 gnnD gnune2 gn1nR gnGeLe2 gnzVLiDGe2 gn#Z8e2 gnG1yGeeG gn1idlb gnEgx gnEe9 gnEeE gnEeP gnEec gnEej gnEfD gnEfO gnEfC gnEfW gnzU4 gn1ge gnyDU gnzIb1 gnl8y3u gnl8y3v !111e1 gAknEe9 gAknEeE gAknEeP gAknEec gAknEej gAknEfD gAknEfO gAknEfC gAknEfW gAknThU gAknTj& gAknTmL gAknTmq gAknTlT gAknTpc gAknTlh gAknTqB gAknTl5 gAknTe9fU gAknTe9g3 !11200 iv0K iv0h5 iv0eI iv0e8 iv0eG iv0hY iv0eD iv0hw iv0eo iv0if iv0gR iv0y0n iv0k7 iv0hv iv0i3 iv0ic iv0hz iv0y3b !11213 iv0ih iv0jo iv0ke iv0jp iv0kp iv0kN iv0gC iv0j2 iv0gN iv0y6G iv0k1 iv0g5 iv0fl iv0jS iv0gu iv0wl iv0kP iv0g0 iv0gB iv0fq iv0g1 iv0jT iv0gG iv0fQ iv0mu ivG1h5 ivG1eI ivG1hg ivG1e8 ivG1eG ivG1hY ivG1eD ivG1hw iv1ja iv1kk iv1nR iv1qy ivmF iveBmF ivnvnD ivl8e2 iveBl8e2 ivoh1 iv1wL !11280 l40K l40eI l40e8 l40eG l40eo l40if l40gR !11288 l40k7 !1128a l40i3 l40ic l40hz l40y3b !1128f l40ih l40jo l40ke l40jp l40y6G l40kp l40kN l40gC l40j2 l40gN l40k1 l40g5 l40fl l40jS l40gu !1129f l40kP l40g0 l40gB l40fq l40g1 l40jT l40gG l40fQ l40oe l40um l4l8e2 !112b0 iP0K " ++
  "iP0h5 iP0eI iP0hg iP0e8 iP0i2 iP0eG iP0hY iP0eD iP0hw iP0eo iP0if iP0gR iP0y0n iP0k7 iP0hv iP0i3 iP0ic iP0hz iP0y3b iP0lN iP0ih iP0jo iP0ke iP0jp iP0y6G iP0oe iP0kp iP0kN iP0gC iP0j2 iP0gN iP0k1 iP0g5 iP0fl iP0jS iP0gu iP0wl iP0kP iP0g0 iP0gB iP0fq iP0g1 iP0jT iP0i0 iP0gG iP0fQ iP1ja iPG1h5 iPG1eI iPG1hg iPG1e8 iPG1i2 iPG1eG iPG1hY iPG1eD iPG1hw iP1nR iP1kk !112f0 iPEgx iPEe9 iPEeE iPEeP iPEec iPEej iPEfD iPEfO iPEfC iPEfW !11300 hH1Vjac hH1lb hH1ja hH1l9 !11305 hH0K hH0h5 hH0eI hH0hg hH0e8 hH0i2 hH0fJew hH0fJf7 !1130f hH0ka hH0hY !11313 hH0k2 hH0hw hH0eo hH0if hH0gR hH0k7 hH0hv hH0i3 hH0ic hH0hz hH0lN hH0ih hH0jo hH0ke hH0jp hH0kp hH0kN hH0gC hH0j2 hH0gN hH0k1 hH0g5 !1132a hH0fl hH0jS hH0gu hH0kP hH0g0 hH0gB hH0fq !11332 hH0g1 hH0mu !11335 hH0jT hH0i0 hH0kx hH0gG hH0fQ !1133b Vr8eH hH1nR hH1pj hHG1h5 hHG1eI hHG1hg hHG1e8 hHG1i2 hHG1fJew hHG1fJkw !11347 hHG1ka hHG1hY !1134b hHG1k2 hHG1hw hH1kk !11350 hHrN !11357 hHhwqMe2 !1135d hH1yZu hH0k5ja hH0k5eBja hH0fJkw hH0fJlV hHG1fJf7 hHG1fJlV !11366 VhHEgx VhHEe9 VhHEeE VhHEeP VhHEec VhHEej VhHEfD !11370 VhH0K VhH0eo VhH0g5 VhH0u# VhH0fl !11400 gj0K gj0h5 gj0eI gj0hg gj0e8 gj0i2 gj0fJew gj0fJkw gj0fJf7 gj0fJlV gj0eG gj0hY gj0eD gj0hw gj0eo gj0if gj0gR gj0k7 gj0hv gj0yXn gj0i3 gj0ic gj0hz gj0lN gj0ih gj0yYU gj0jo gj0ke gj0jp gj0kp gj0kN gj0gC gj0j2 gj0gN gj0k1 gj0g5 gj0y1S gj0fl gj0jS gj0gu gj0kP gj0g0 gj0yWm gj0gB gj0fq gj0um gj0g1 gj0vh gj0i7 gj0i0 gj0kx gj0gG gj0fQ gjG1h5 gjG1eI gjG1hg gjG1e8 gjG1i2 gjG1fJew gjG1fJkw gjG1fJf7 gjG1fJlV gjG1eG gjG1hY gjG1eD gjG1hw gj1kk gj1lb gj1ja gj1l9 gj1nR gj1pj gj1eAja gjrN gj#U# gjmF gjeBmF gji& gjy0muN gjoh1 gjEgx gjEe9 gjEeE gjEeP gjEec gjEej gjEfD gjEfO gjEfC gjEfW gjeBi& gjyGQe2 !1145d gjyDn1 gjune2 gj0k5ja gj1y14 gj1y2B !11480 hXyAy hX0K hX0h5 hX0eI hX0hg hX0e8 hX0i2 hX0fJew hX0fJkw hX0fJf7 hX0fJlV hX0eG hX0hY hX0eD hX0hw hX0eo hX0if hX0gR hX0k7 hX0hv hX0i3 hX0ic hX0hz hX0lN hX0ih hX0jo hX0ke hX0jp hX0kp hX0kN hX0gC hX0j2 hX0gN hX0k1 hX0g5 hX0fl hX0jS hX0gu hX0kP hX0g0 hX0gB " ++
  "hX0fq hX0g1 hX0jT hX0i0 hX0kx hX0gG hX0fQ hXG1h5 hXG1eI hXG1hg hXG1e8 hXG1i2 hXG1fJew hXG1fJkw hXG1fJf7 hXG1fJlV hXG1eG hXG1iDeG hXG1hY hXG1eD hXG1iDeD hXG1hw hX1lb hX1ja hX1l9 hX1kk hX1nR hX1pj hXzcX hXoh1 hXrN !114d0 hXEgx hXEe9 hXEeE hXEeP hXEec hXEej hXEfD hXEfO hXEfC hXEfW !11580 ge0K ge0h5 ge0eI ge0hg ge0e8 ge0i2 ge0fJew ge0fJkw ge0fJf7 ge0fJlV ge0eG ge0hY ge0eD ge0hw ge0eo ge0if ge0gR ge0k7 ge0hv ge0i3 ge0ic ge0hz ge0lN ge0ih ge0jo ge0ke ge0jp ge0kp ge0kN ge0gC ge0j2 ge0gN ge0k1 ge0g5 ge0fl ge0jS ge0gu ge0kP ge0g0 ge0gB ge0fq ge0g1 ge0jT ge0i0 ge0kx ge0gG ge0fQ geG1h5 geG1eI geG1hg geG1e8 geG1i2 geG1fJew geG1fJkw !115b8 geG1eG geG1hY geG1eD geG1hw ge1lb ge1ja ge1l9 ge1kk ge1nR ge1ge gemF geeBmF genDeJ genDfF gey4jy3u gey4jy3v gey4jyWR gem1eYute2 gel8e22y5BOy5H#B1 gel8e22y5BOkZvF gel8e22soOkZvF gel8e22soOkZeBvF gel8e22soOkZj8vF gel8e2eBft gel8e2eBft2so gel8e22eBvF gel8e22j8vF gel8e22snvF gel8e22#SBvF gel8e22pQOso gel8e22pQOeEyQx gel8e22pQOecyQx ge0#cjkmeI ge0yI#kmeI ge0yI#kmhg ge0kme8 geG1kme8 geG1kmi2 !11600 hk0K hk0h5 hk0eI hk0hg hk0e8 hk0i2 hk0fJew hk0fJkw hk0fJf7 hk0fJlV hk0eG hk0hY hk0eD hk0hw hk0eo hk0if hk0gR hk0k7 hk0hv hk0i3 hk0ic hk0hz hk0lN hk0ih hk0jo hk0ke hk0jp hk0kp hk0kN hk0gC hk0j2 hk0gN hk0k1 hk0g5 hk0fl hk0jS hk0gu hk0kP hk0g0 hk0gB hk0fq hk0g1 hk0jT hk0i0 hk0kx hk0gG hk0fQ hk0mu hkG1h5 hkG1eI hkG1hg hkG1e8 hkG1i2 hkG1fJew hkG1fJkw hkG1fJf7 hkG1fJlV hkG1eG hkG1hY hkG1eD hkG1hw hk1ja hk1l9 hk1kk hk1yv1 hkmF hkeBmF hkoh1 hk1zhm !11650 hkEgx hkEe9 hkEeE hkEeP hkEec hkEej hkEfD hkEfO hkEfC hkEfW !11660 f1qg2il f1ipqg f1eBqg2il f1j8qg2il f1qg2eBil f1ipqg2il f1ipqg2eBil f1idqg f1idqg2eBil f1y50qg f1y50qg2il f1y50qg2eBil f1fuy50qg2eBil !11680 ib0K ib0h5 ib0eI ib0hg ib0e8 ib0i2 ib0eG ib0hY ib0eD ib0hw ib0eo ib0if ib0gR ib0k7 ib0hv ib0i3 ib0ic ib0hz ib0lN ib0ih ib0jo ib0ke ib0jp ib0kp ib0kN ib0gC ib0j2 ib0gN ib0k1 ib0g5 ib0fl ib0jS ib0gu ib0kP ib0g0 ib0gB ib0fq ib0g1 ib0jT ib0i0 ib0gG ib0fQ ib0oe ib1ja ib1l9 ibG1h5 ibG1eI ibG1hg ibG1e8 ibG1i2 ibG1eG " ++
  "ibG1hY ibG1eD ibG1hw ib1kk ib1nR ib0knif iboh1 !116c0 ibEgx ibEe9 ibEeE ibEeP ibEec ibEej ibEfD ibEfO ibEfC ibEfW !11700 ii0eo ii0if ii0hv ii0g5 ii0gC ii0kmgC ii0fl ii0jS ii0gu ii0g0 ii0hz ii0ic ii0j2 ii0fq ii0g1 ii0gG ii0ih ii0fQ ii0K ii0gN ii0k1 ii0gR ii0kmgR ii0k7 ii0kP ii0lN ii0kmgu !1171d iih91gbg1 iih91gbfq iih91gbztIfq iiG1K iiG1h5 iiG1eI iiG1hg iiG1e8 iiG1i2 iiG1eG iiG1yB4 iiG1eD iiG1hY iiG1t5 ii1zom !11730 iiEgx iiEe9 iiEeE iiEeP iiEec iiEej iiEfD iiEfO iiEfC iiEfW iiThU iiTj& ii13l8 ii1l8 ii1#LH iiBu# ii0i3 ii0jo ii0ke ii0jp ii0kp ii0kN ii0mu !11800 j30K j30h5 j30eI j30hg j30e8 j30i2 j30eG j30hY j30eD j30hw j30eo j30if j30gR j30k7 j30hv j30i3 j30ic j30hz j30lN j30ih j30jo j30ke j30jp j30kp j30kN j30gC j30j2 j30gN j30k1 j30g5 j30fl j30jS j30gu j30kP j30g0 j30gB j30fq j30g1 j30jT j30i0 j30kx j30gG j30fQ j30oe j3G1h5 j3G1eI j3G1hg j3G1e8 j3G1i2 j3G1fJew j3G1fJkw j3G1eG j3G1hY j3G1eD j3G1hw j31ja j31l9 j31kk j31nR j3oh1 !118a0 hPhL50y8O hPhL50K hPhL50oC hPhL50k# hPhL50gB hPhL50l# hPhL50hg hPhL50i2 hPhL50eG hPhL50eD hPhL50r6 hPhL50gR hPhL50nO hPhL50y0c hPhL50ygg hPhL50yAP hPhL50yCh hPhL50xP hPhL50y5C hPhL50yFo hPhL50gN hPhL50mn hPhL50t5 hPhL50n2 hPhL50rU hPhL50ySu hPhL50yS# hPhL50yT1 hPhL50y0t hPhL50ycx hPhL50y4u hPhL50yfl hPhL30y8O hPhL30K hPhL30oC hPhL30k# hPhL30gB hPhL30l# hPhL30hg hPhL30i2 hPhL30eG hPhL30eD hPhL30r6 hPhL30gR hPhL30nO hPhL30y0c hPhL30ygg hPhL30yAP hPhL30yCh hPhL30xP hPhL30y5C hPhL30yFo hPhL30gN hPhL30mn hPhL30t5 hPhL30n2 hPhL30rU hPhL30ySu hPhL30yS# hPhL30yT1 hPhL30y0t hPhL30ycx hPhL30y4u hPhL30yfl hPhLEgx hPhLEe9 hPhLEeE hPhLEeP hPhLEec hPhLEej hPhLEfD hPhLEfO hPhLEfC hPhLEfW hPhLThU hPhLTj& hPhLTmL hPhLTmq hPhLTlT hPhLTpc hPhLTlh hPhLTqB hPhLTl5 !118ff hPhLrN iAi80K iAi80h5 iAi80eI iAi80hg iAi80e8 iAi80i2 iAi80eG !11909 iAi80eD !1190c iAi80eo iAi80if iAi80gR iAi80k7 iAi80hv iAi80i3 iAi80ic iAi80hz !11915 iAi80ih iAi80jo !11918 iAi80jp iAi80kp iAi80kN iAi80gC iAi80j2 iAi80gN iAi80k1 iAi80g5 iAi80fl iAi80jS iAi80gu iAi80kP iAi80g0 iAi80gB " ++
  "iAi80yAl iAi80fq iAi80g1 iAi80jT iAi80i0 iAi80kx iAi80gG iAi80fQ iAi80mu iAi80jt iAi8G1h5 iAi8G1eI iAi8G1hg iAi8G1e8 iAi8G1i2 iAi8G1eG !11937 iAi8G1hY iAi8G1eD !1193b iAi81ja iAi81lb iAi81yDR iAi8kk iAi8tiy441 iAi8gbgB iAi8elfq iAi8gbfq iAi81nR iAi8eBmF iAi8y0muN iAi8m1eYute2 !11950 iAi8Egx iAi8Ee9 iAi8EeE iAi8EeP iAi8Eec iAi8Eej iAi8EfD iAi8EfO iAi8EfC iAi8EfW !119a0 ik0K ik0h5 ik0eI ik0hg ik0e8 ik0i2 ik0fJew ik0fJkw !119aa ik0eG ik0hY ik0eD ik0hw ik0eo ik0if ik0gR ik0k7 ik0hv ik0i3 ik0ic ik0hz ik0lN ik0ih ik0jo ik0ke ik0jp ik0kp ik0kN ik0gC ik0j2 ik0gN ik0k1 ik0g5 ik0fl ik0jS ik0gu ik0kP ik0g0 ik0gB ik0fq ik0g1 ik0jT ik0i0 ik0kx ik0gG ik0fQ ik0mu ik0oe ikG1h5 ikG1eI ikG1hg ikG1e8 ikG1i2 ikG1fJew ikG1fJkw !119da ikG1eG ikG1hY ikG1eD ikG1hw ik1ja ik1l9 ik1kk ik1pj ik1ge ikyDU ikG1yGeeG !11a00 iFe30K iFe3G1eI iFe3G1nu iFe3G1e8 iFe3G1eG iFe3G1kS iFe3G1eD iFe3G1hY iFe3G1hw iFe3G1hGeI iFe3GqMe2 iFe30eo iFe30if iFe30gR iFe30k7 iFe30hv iFe30i3 iFe30ic iFe30hz iFe30ih iFe30jo iFe30ke iFe30jp iFe30kp iFe30kN iFe30gC iFe30j2 iFe30gN iFe30k1 iFe30g5 iFe30fl iFe30jS iFe30gu iFe30kP iFe30g0 iFe30mM iFe30qZ iFe30rD iFe30y2# iFe30oE iFe30jt iFe30x& iFe30gB iFe30fq iFe30g1 iFe30jT iFe30i0 iFe30kx iFe30gG iFe30fQ iFe30y3n iFe3eAh9e2 iFe31kk iFe31lb iFe31lb2il iFe31q82il iFe31ja iFe31l9 iFe3y2m0fq iFe3y690gB iFe3y690fq iFe3y690g1 iFe3y690jT iFe3elmge2 iFe3y2lmge2 iFe3e2sz iFe3e2py iFe3e2eBpy iFe3e2g2sz iFe3elyQHmge2 iFe3y2lyQHmge2 iFe3yd4 !11a50 hT0K hTG1eI hTG1nu hTG1e8 hTG1eG hTG1eD hTG1kS hTG1hY hTG1hw hTG1fJew hTG1fJf7 hTGqMe2 hT0eo hT0if hT0gR hT0k7 hT0hv hT0i3 hT0ic hT0hz hT0lN hT0ih hT0jo hT0ke hT0jp hT0kp hT0kN hT0gC hT0j2 hT0gN hT0k1 hT0g5 hT0fl hT0jS hT0gu hT0kP hT0g0 hT0mM hT0qZ hT0rD hT0oE hT0jt hT0x& hT0gB hT0fq hT0g1 hT0jT hT0i0 hT0kx hT0gG hT0fQ hT0y3n hT1y14 hT1y2B hTy2m0fq hTy2m0g1 hTy2m0i0 hTy2m0gG hTeAh91gP hTeAh91gV hTeAh91oc hTeAh91gg hTeAh91fn hTeAh91eM hTeAh91g8 hTeAh91ew hTeAh91f7 hTeAh91xY hTeAh91ex hTeAh91x& hT1ja hT1l9 hTy3Ge2 hTyd4 hTe2sz hTe2py hTe2eBpy " ++
  "hTe2yZu hTmge22mUOq0Oj8yRN hTmge22mUOq0OyRN hTmge22mUOq0 hTydzy3u hTydzy3v !11ab0 IJs3lE IJs3ySp IJs3mt IJs3y3S IJs3fQ IJs3sZ IJs3yc0 IJs3#UO IJs3#UQ IJs3#UR IJs3#UM IJs3#UN IJ#WU IJ#Wa IJ#Wg IJ#WO jHjFjC0fl jHjFjC0eo jHjFjC0g1 jHjFjC0g0 jHjFjC0gN jHjFjC0jt jHjFjC0jT jHjFjC0hv jHjFjC0fQ jHjFjC0gR jHjFjC0if jHjFjC0gG jHjFjC0gu jHjFjC0i3 jHjFjC0gC jHjFjC0j2 jHjFjC0g5 jHjFjC0jS jHjFjC0fq jHjFjC0kh jHjFjC0ic jHjFjC0K jHjFjC0eG jHjFjC0eI jHjFjC0eD jHjFjC0e8 jHjFjC0y29 jHjFjC0y7J jHjFjC0eAhI jHjFjC0eAgV jHjFjC0eAgT jHjFjC0eAg8 jHjFjC0eAfn jHjFjC0eAf7 jHjFjC0eAhc jHjFjC0eAoc jHjFjC0eAgw jHjFjCqRfXg2 jHjFjCqRfX jHjFjCunlUi1 jHjFjCqRfXg2eA jHjFjCqRfXeA jHjFjCunlUi1eA jHjFjCunfXg2 jHjFjCunfX jHjFjCunfXg2eA jHjFjCunfXeA jHjFjCyF1fX jHjFjClUi1lz jHjFjCyF1fXg2eA jHjFjCyF1fXeA jHjFjCy83fXg2 jHjFjCy83fX jHjFjClUi1 jHjFjCy83fXg2eA jHjFjCy83fXeA jHjFjClUi1eA !11c00 gf0K gf0h5 gf0eI gf0hg gf0e8 gf0i2 gf0fJew gf0fJkw gf0fJf7 !11c0a gf0eG gf0hY gf0eD gf0hw gf0eo gf0if gf0gR gf0k7 gf0hv gf0i3 gf0ic gf0hz gf0lN gf0ih gf0jo gf0ke gf0jp gf0kp gf0kN gf0gC gf0j2 gf0gN gf0k1 gf0g5 gf0fl gf0jS gf0gu gf0kP gf0g0 gf0gB gf0fq gf0g1 gf0jT gf0i0 gf0kx gf0gG gf0fQ gfG1h5 gfG1eI gfG1hg gfG1e8 gfG1i2 gfG1fJew gfG1fJkw gfG1fJf7 !11c38 gfG1eG gfG1hY gfG1eD gfG1hw gf1lb gf1ja gf1l9 gf1kk gf1pj gfmF gfeBmF gfnvnD gfy0mzXK gfy0mzXL !11c50 gfEgx gfEe9 gfEeE gfEeP gfEec gfEej gfEfD gfEfO gfEfC gfEfW gfTe9 gfTeE gfTeP gfTec gfTej gfTfD gfTfO gfTfC gfTfW gfThU gfTj& gfTmL gfTmq gfTlT gfTpc gfTlh gfTqB gfTl5 gfyDdsFe2 !11c70 iYmge2 iYe2py iY0eo iY0if iY0gR iY0hv iY0i3 iY0ic iY0hz iY0ih iY0gC iY0j2 iY0gN iY0g5 iY0fl iY0jS iY0gu iY0g0 iY0mM iY0qZ iY0rD iY0i7 iY0oE iY0jt iY0x& iY0gB iY0fq iY0g1 iY0i0 iY0gG iY0fQ iY0K !11c92 iYhO0eo iYhO0if iYhO0gR iYhO0hv iYhO0i3 iYhO0ic iYhO0hz iYhO0ih iYhO0gC iYhO0j2 iYhO0gN iYhO0g5 iYhO0fl iYhO0jS iYhO0gu iYhO0g0 iYhO0mM iYhO0qZ iYhO0rD iYhO0i7 iYhO0oE iYhO0jt !11ca9 iYhO0gB iYhO0fq iYhO0g1 iYhO0i0 iYhO0gG iYhO0fQ iYhO0K iYG1h5 iYG1eI iYG1e8 iYG1eG iYG1eD iY1ja iY1lb !11d00 " ++
  "hyfT0K hyfT0h5 hyfT0eI hyfT0hg hyfT0e8 hyfT0i2 hyfT0eG !11d08 hyfT0hY hyfT0eD !11d0b hyfT0hw hyfT0eo hyfT0if hyfT0gR hyfT0k7 hyfT0hv hyfT0i3 hyfT0ic hyfT0hz hyfT0lN hyfT0ih hyfT0jo hyfT0ke hyfT0jp hyfT0kp hyfT0kN hyfT0gC hyfT0j2 hyfT0gN hyfT0k1 hyfT0g5 hyfT0fl hyfT0jS hyfT0gu hyfT0kP hyfT0g0 hyfT0gB hyfT0fq hyfT0g1 hyfT0jT hyfT0i0 hyfT0kx hyfT0gG hyfT0fQ hyfT0mu hyfT0y3n hyfT0yTo hyfT0yIl hyfTG1h5 hyfTG1eI hyfTG1hg hyfTG1e8 hyfTG1i2 hyfTG1fJew !11d3a hyfTG1eG !11d3c hyfTG1hY hyfTG1eD !11d3f hyfTG1hw hyfT1ja hyfT1l9 hyfT1nR hyfT1q8 hyfT1yDR hyfTkk hyfT#JI hyfT#IF !11d50 hyfTEgx hyfTEe9 hyfTEeE hyfTEeP hyfTEec hyfTEej hyfTEfD hyfTEfO hyfTEfC hyfTEfW !11d60 isfT0K isfT0h5 isfT0eI isfT0hg isfT0e8 isfT0i2 !11d67 isfT0ka isfT0hY !11d6a isfT0k2 isfT0hw isfT0gB isfT0jT isfT0gu isfT0kP isfT0g0 isfT0eo isfT0if isfT0gC isfT0j2 isfT0g1 isfT0gR isfT0k7 isfT0gN isfT0k1 isfT0g5 isfT0i3 isfT0ic isfT0jo isfT0ke isfT0mu isfT0hz isfT0lN isfT0jp isfT0kp isfT0hv isfT0fl isfT0jS isfT0fQ isfT0fq isfT0gG isfTG1h5 isfTG1eI isfTG1hg isfTG1e8 isfTG1i2 !11d90 isfTG1ka isfTG1hY !11d93 isfTG1k2 isfTG1hw isfT1ja isfT1l9 isfTkk isfTrN !11da0 isfTEgx isfTEe9 isfTEeE isfTEeP isfTEec isfTEej isfTEfD isfTEfO isfTEfC isfTEfW !11ee0 nP0eo nP0gR nP0hv nP0fl nP0gu nP0g0 nP0gC nP0gN nP0g5 nP0i3 nP0hz nP0ih nP0gB nP0fq nP0g1 nP0jT nP0gG nP0K nPyuE nPG1eI nPG1e8 nPG1eG nPG1eD nP#Cd nPm1eYl8 !11fb0 jy0#qd !11fc0 fdgae9#cm fdgae9yYk fdgae9zU1 fdgae9yHc fdgae9yRY fdgae9yIR fdgaePyQp fdgaeP#VV fdgae9yf5 fdgae9#VT fdgae9#VU fdgae9yIM fdgae9l1 fdgaePyf6 fdgaePy9m fdgae9yCv fdgae9l6 fdgae9zdI fdgae9zdJ fdgaePqQ fdgazSFyCpzol fd1#30 fd1z2c fd1yrO fd1#ir fd1#0a fd1zqQ fd1#Ck fd1#0C fd1zmu fd1#C0 fd1y4Z fd1#kB fd1#Ba fd1zqX fd1#kQ fd#nZyPE1 fdyCZyPE1 fdzsC1 fdtmyG51 fdyeYyC21 fdyeYT1 fdyC71 fdOxP1 fd#WY1 fdyeU1 fdityZz1 fd#XjlM1 fd1#0Y fd1#k6 !11fff fdgSm1eYut A1K A1KMK A1KMok A1KMo0kj A1KMfQ A1KMlv A1KMqKjM A1KMpX A1KMma A1yAs A1oF A1oFMt6 A1oFMwvjM A1oFMuR A1oFMo0kj A1oFMfQ A1oFMlvjM A1oFMy7L A1oFMiu A1oFMyHO " ++
  "A1oFMe8eue8eue8 A1oFjM A1og A1ogMy5n A1ogMo0kj A1ogMleeujK A1ogMsB A1ogMq2 A1wg A1y03 A1y03My0f A1y03My9feuo1 A1pL A1pLMpL A1pLMyCQ A1pLMo1 A1pLMfQ A1pLMy3d A1pLMne A1pLMkI A1pLMsH A1ytg A1pM A1y5d A1y5dMkI A1lB A1lBfglB A1lBePM A1lBeuvtv#lBeuvt A1lBeuvtez A1yAz A1yui A1yM# A1yM#Mos A1yv8 A1yvS A1jI A1jIygzkj A1jIyTtkj A1jIfgjIwZfgwZwZfgwZpC A1jIfgjIfgjI A1jIfgjIfgjIlqjIfgjIfgjI A1t6 A1yB2 A1gu A1ok A1yzb A1y2W A1y2X A1y2Xfgy2X A1y5n A1fF A1yzw A1om A1omMK A1omMmP A1omMlvjM A1n2 A1n2fgn2oF A1n2fgn2uy A1n2lqn2 A1y5x A1y5xfgy5x A1u7 A1z0X A1gN A1mp A1mpmQMKeuxH A1mpmQMy5d A1mpmQMy5n A1mpmQMom A1mpmQMgR A1mpmQMgReuxH A1mpmQMnc A1mpmQMx5 A1mpmQMpT A1mpmQMfQ A1mpmQMy3Y A1mpmQMy3YeunA A1mpmQMtX A1mpmQMg1 A1mpmQMnA A1mpmQMnAeuyWS A1mpmQMs0 A1mpmQMlW A1mpmQMpCeupC A1mpmQMnr A1mpmQMq2 A1mpmQMqbeux5 A1mpmQMsH A1zLQ A1yPZ A1yPa A1zLW A1oo A1yQ1 A1ws A1wsMkI A1yCQ A1y6O A1y6OqIe8jMnm A1nm A1op A1opfgop A1opjM A1oppz A1y0X A1y0XMtM A1zSO A1lc A1zSR A1zSS A1yCb A1wv A1wvjM A1wvjMjM A1zSV A1zSb A1eG A1eGMpC A1eGfgeGj9fgj9 A1rp A1rpMKeufQeugN A1rpMmP A1rpMmH A1rpMtl A1rpMkI A1rpMe8 A1zTs A1zT# A1nn A1jK A1jKMo0 A1jKMo0kj A1jKMle A1jKlqjK A1jKv#jK A1jKez A1yR2 A1y0f A1tM A1m2 A1m2MK A1m2MKeur& A1m2MKeur&Mr& A1m2MlB A1m2Mok A1m2MwvjM A1m2MwvjMjM A1m2MfQ A1m2MfQjM A1m2MlvjM A1m2MqI A1m2MqIez A1m2My1D A1m2Mg1 A1m2Mr&Mr& A1m2Mij A1m2MnA A1m2Mqb A1m2Mmm A1gR A1gRjM A1hq A1hqMKeugNeufQ A1hqMKeufQ A1hqMKeulv A1hqMogkjeutr A1hqMlB A1hqMjI A1hqMt6euuR A1hqMok A1hqMfFeufq A1hqMu7 A1hqMu7eufq A1hqMgN A1hqMoo A1hqMwsMkI A1hqMy0X A1hqMnn A1hqMnneug1 A1hqMjK A1hqMjKMo0kj A1hqMo0kj A1hqMmP A1hqMnc A1hqMx4 A1hqMx4euK A1hqMx5euoA A1hqMfQeunAeutM A1hqMy0s A1hqMy0seug1 A1hqMlEeuij A1hqMvZ A1hqMlvjM A1hqMyDseuqpeujI A1hqMtX A1hqMqI A1hqMy7c A1hqMy7ceur& A1hqMy1DeulB A1hqMg1 A1hqMleeujK A1hqMmH A1hqMj9 A1hqMj9fgj9 A1hqMfl A1hqMtl A1hqMy1m A1hqMkI A1hqMkIeuy28 A1hqMy1q A1hqMy1y A1hqMq2 A1hqMe8 A1hqMmm A1hqMmmeuop A1hqfghq A1y6# A1y6#lqy6# A1tR A1tRfgtRmPfgmP A1uR A1uRtRfgtRmPfgmP A1zZk A1zZl A1x3 A1o0 " ++
  "A1o0kj A1o0fgo0 A1o0lqo0 A1mP A1zZr A1zZw A1yDG A1yDGMos A1nc A1ncMeG A1ncMe8 A1nclqnc A1x4 A1x4fgx4 A1x4lqx4 A1zbI A1x5 A1x5jM A1y0o A1y0oMKeulv A1y0oMo0kj A1y0oMlv A1y0oMnAeulv A1y0oMfl A1zbX A1o1 A1o1lqo1 A1o1Mok A1o1Mq2 A1o1kj A1pS A1pSlqpS A1x6 A1x6MtX A1x6MtXMlvjM A1x6Mj9 A1x6MtleuwZ A1x6jM A1pT A1pTMKeuos A1pTMos A1pTfgpTxF A1ySP A1yDQ A1yDQMkI A1y76 A1ySQ A1zcS A1zcT A1fQ A1fQkj A1fQjM A1y0s A1lE A1lEMjI A1lEMt6 A1lEMok A1lEMnm A1lEMtR A1lEMyED A1lEMj9 A1lEMkI A1lEMe8 A1qp A1vZ A1vZMlB A1vZMy0s A1vZMqI A1vZMyEd A1vZMmm A1zhc A1eI A1eIK A1yDf A1y3U A1y3Ufgy3Uu7 A1y3Ufgy3Uez A1yTL A1lv A1lvyQ1 A1lvpu A1lvfglvy1rfgy1rmmfgmm A1lvjM A1yTP A1yTPMo0kj A1zk7 A1qH A1qHMq2 A1qHlqqH A1qHv#qH A1qHez A1y7L A1it A1y3Y A1yDs A1eo A1eoMK A1eoMwg A1eoMwgeuy1D A1eoMt6 A1eoMok A1eoMy5n A1eoMfF A1eoMom A1eoMy0f A1eoMtM A1eoMgR A1eoMuR A1eoMo0kj A1eoMmP A1eoMmPeusBeuK A1eoMnc A1eoMx5 A1eoMo1euy1m A1eoMo1lqo1 A1eoMpS A1eoMySQ A1eoMlv A1eoMqH A1eoMtX A1eoMne A1eoMy7c A1eoMij A1eoMnA A1eoMle A1eoMleeuop A1eoMleeunc A1eoMleeulI A1eoMmH A1eoMmHeuqu A1eoMlW A1eoMj9 A1eoMjh A1eoMnq A1eoMgG A1eoMy1m A1eoMi0 A1eoMkI A1eoMy1q A1eoMqX A1eoMycA A1eoMyd9 A1eoMxl A1eoMe8 A1eoMqb A1eoMmm A1eoMyATMfl A1eoMsH A1eoMt3 A1yD& A1yD&lqyD& A1yTs A1yTu A1y3d A1zn0 A1yE0 A1yE0fgyE0 A1tX A1tXMlvjM A1y3e A1y3eMok A1y3elqy3e A1zn7 A1zn8 A1qI A1qIiuMe8fgiuMe8 A1qIfgqIiuMe8fgiuMe8 A1yU3 A1ne A1neMok A1neMe8 A1neMmm A1y7c A1yED A1zov A1zow A1mQ A1mQfgmQ A1o2 A1o2fglEMt6o2fglEMt6 A1y1D A1yUb A1yUblzF A1zq7 A1y7l A1y7ljM A1yUc A1os A1osv#os A1y1E A1zqd A1g1 A1iu A1iuMK A1iuMKeugNeufQ A1iuMKeumP A1iuMKeur& A1iuMpL A1iuMlB A1iuMjIygzkj A1iuMok A1iuMom A1iuMyPZ A1iuMjK A1iuMgR A1iuMmP A1iuMpT A1iuMpTeupT A1iuMfQ A1iuMy0s A1iuMlEMj9 A1iuMlvjM A1iuMqH A1iuMqHeufQ A1iuMqHeunA A1iuMne A1iuMyED A1iuMy1D A1iuMy7l A1iuMy7leulEeuK A1iuMiu A1iuMyEd A1iuMnA A1iuMyEh A1iuMle A1iuMleeujK A1iuMpX A1iuMlW A1iuMkIeuy1y A1iuMy9feuo1euy0f A1iuMy9feuo1kj A1iuMuq A1iuMuqeuuq A1iuMy1y A1iuMgL A1iuMq2 A1iuMlIeuKeuoAeug5 A1iuMe8 " ++
  "A1iuMe8euK A1iuMe8eue8eue8 A1iuMqbeujI A1iuMmm A1iuMsH A1iuez A1qK A1qKMkI A1qKMkIeuy1y A1qKjM A1qKjMfgqKjMkI A1zrT A1r& A1r&Mr& A1h# A1h#Mos A1h#Moseunq A1ij A1ztL A1ztT A1yEd A1nA A1nAMok A1lO A1lOMpL A1lOMok A1lOMtM A1lOMtMkj A1lOMo0kj A1lOMlEMok A1lOMqH A1lOMyTu A1lOMy3d A1lOMy3deujI A1lOMne A1lOMg1eujI A1lOMiu A1lOMleeujK A1lOMlW A1lOMlw A1lOMnreujI A1lOMycDeun2 A1lOMwZ A1lOkj A1lOlqlO A1lOv#lO A1lOez A1lOpz A1y1J A1xF A1xFfgxF A1xFv#xF A1xFpz A1yEg A1yEh A1s0 A1s0fgs0 A1s0fgs0mPfgmP A1g0 A1g0Mq2 A1g0jM A1zxd A1yWM A1yWQ A1xH A1yWS A1le A1yE& A1mH A1y8E A1ks A1ksfgks A1y8H A1y8HjM A1#0J A1#0T A1pX A1pXMK A1pXMos A1pXMjt A1pXfgpX A1pXfgpXMKeug5 A1pXlqpX A1y1L A1y1LMK A1y1LMKeuoo A1y1LMoo A1y1LjM A1g5 A1yXK A1vt A1vtid A1vtMqXkj A1vtv#vt A1#1h A1yXOyYL A1yXO A1yXP A1lW A1lWMK A1lWMmm A1lWpz A1lX A1lXMeG A1#4P A1yFe A1yFeMo0kj A1yFeMmPeuo0kj A1mz A1mzMlB A1mzMjI A1mzMjIeujI A1mzMpT A1mzMleeuo0kj A1mzMlW A1mzMj9 A1mzMkI A1mzMkIeuKlB A1mzMkIeujI A1mzMkIeujIeujI A1mzMqbeujI A1mzMsH A1#4m A1lw A1yYG A1j9 A1j9qKMmP A1j9qKMxH A1j9qKMtl A1j9qKMtlfgj9qKMtl A1j9qKMsH A1j9kj A1j9fgj9 A1j9lqj9 A1j9lqj9qKfgqK A1qu A1quogMyB2 A1quogMom A1quogMlc A1quogMpT A1quogMlvjM A1quogMy3d A1quogMg1 A1quogMlW A1quogMycE A1quogMqb A1qumQMom A1qumQMome8 A1fl A1y4N A1yG5 A1pC A1yZR A1jh A1jhMK A1jhMoF A1jhMom A1jhMn2 A1jhMeG A1jhMeI A1jhMyDf A1jhMe8 A1jhMqb A1jhlqjh A1y1c A1y1cMy3e A1y1cMmm A1y1cMjt A1y1cv#y1c A1fq A1#IJ A1pu A1nq A1gG A1mayYL A1ma A1maMK A1maMop A1maMy0X A1maMfQ A1maMtX A1maMos A1maMs0 A1maMmH A1maMj9 A1maMtl A1maMy1q A1maMtr A1maMqb A1maMyfL A1maMux A1maMuz A1maMsH A1mafgma A1majM A1tl A1tliuMt6 A1#NE A1y1m A1i0 A1sB A1sBMK A1sBMok A1sBMo1 A1sBMlW A1sBMuq A1sBMy28 A1sBMe8 A1sBMe8euK A1ybn A1#TR A1sC A1kI A1kIqp A1kIfgkItRfgtRmPfgmP A1kIfgkItrfgtrmPfgmP A1#Tj A1#Tk A1yHO A1#Tn A1#To A1y1q A1y1qMK A1y1qMqH A1rZ A1rZMK A1rZMy2X A1rZMy5x A1rZMy6O A1rZMmP A1rZMlv A1rZMlvjM A1rZMy1E A1rZMyEh A1rZMy8H A1rZMtl A1#Tx A1y1r A1y1rkj A1y1rfgy1ru7fgu7 A1y9f A1qX A1qXfgidqX A1uq A1#UU " ++
  "A1nr A1nrjM A1ycA A1y9j A1y9jfgy9juq A1ycD A1ycE A1oA A1oAfgoA A1#Yo A1#Yp A1yd9 A1y1y A1#Yr A1yA0 A1#Z1 A1gC A1gCkD A1gCMlE A1gCMmH A1gCjM A1tr A1trfgtrlXfglXnmfgnm A1trez A1gL A1gLMom A1gLMpT A1gLMkI A1gLMqX A1gLMwZ A1gLMmm A1q2 A1xl A1lI A1lIjM A1ow A1owkj A1yIa A1xs A1xsMq2 A1xsfgxs A1xsfgxstRfgtRmPfgmP A1nW A1wZ A1yf1 A1y5E A1y28 A1y28fgy28jtfgjt A1e8 A1e8pT A1e8e8e8 A1e8fge8flfgflmPfgmP A1e8fge8yA0fgyA0 A1e8fge8e8hGfge8hG A1qb A1yfL A1mm A1mmy1E A1mmMok A1mmMmH A1mmMe8eue8eue8 A1mmMe8eue8eue8jM A1mmjM A1mmpz A1mmpzMok A1#hn A1ux A1uxMiu A1uxMleeugN A1uxMsB A1uxMe8 A1#i3 A1yAT A1yATMqI A1yATMfl A1uy A1uyjM A1uz A1uzlquz A1uzpz A1sG A1sGMKeufQ A1sGMKeug5 A1sGMpL A1sGMfQ A1sGMj9 A1sGMqb A1sGMqbeujI A1sGMqbeuom A1#iS A1#iU A1#iV A1n0 A1n0MK A1n0MyB2 A1n0MfF A1n0MyCb A1n0MgR A1n0MuR A1n0Mo0kj A1n0MmP A1n0MpS A1n0MfQ A1n0Mlv A1n0MqH A1n0MyDs A1n0Mne A1n0Ms0 A1n0My8E A1n0Mfl A1n0MkI A1n0My9j A1n0MnW A1n0Me8eupT A1n0Mmm A1n0My2C A1y2C A1y2CMe8 A1sH A1sHMK A1sHMo2 A1sHMos A1sHMq2 A1#ie A1#ib A1#id A1#ih A1yfa A1yfaMqI A1#is A1jt A1jtkj A1jtezMos A1#sM A1#sP A1#sZ A1t3 A1t3fgt3 A1#t9 A1ygy A1ygyyTtkj A1#tD A1yg# A1sO A1yJj A1yJjMK A1#tT A1#tU A1yTwy30 A1oFMj9 A1ogMK A1y5dMzqE A1mpmQMqbeuxH A1zLD A1nmeuqX A1y0XMkI A1m2MpT A1m2MkI A1hqMlBeutXeuK A1hqMt6 A1za8 A1zbO A1zhj A1eoMyAz A1eoMyvW A1eoMo1 A1eoMpT A1eoMlEMt6 A1eoMs0 A1eoMfl A1eoM#UY A1eoMnW A1eoMsG A1iuMnc A1lOpzMok A1lOMtMeur& A1lOMqX A1yWh A1y1LMjt A1#1e A1yFf A1#4f A1mzMy2X A1mzMnc A1yYGipl5jc A1yZRkD A1#EE A1maMlvjM A1#d9 A1uxMle A1e8e8 !12400 Ag61eEjI Ag61ePjI Ag61ecjI Ag61ejjI Ag61fDjI Ag61fOjI Ag61fCjI Ag61fWjI Ag61ePnm Ag61ecnm Ag61ejnm Ag61fDnm Ag61fOnm Ag61fCnm Ag61fWnm Ag61ece8 Ag61eje8 Ag61fDe8 Ag61fOe8 Ag61fCe8 Ag61fWe8 Ag61e9uS Ag61eEuS Ag61ePuS Ag61ecuS Ag61ejuS Ag61fDuS Ag61fOuS Ag61fCuS Ag61fWuS Ag61e9y3H Ag61eEy3H Ag61ePy3H Ag61ecy3H Ag61ejy3H Ag61eEsC Ag61ePsC Ag61ePsClzF Ag61ecsC Ag61ejsC Ag61fDsC Ag61fOsC Ag61fCsC Ag61fWsC Ag61e9y1o Ag61eEy1o Ag61ePy1o Ag61ePy1olzF Ag61ecy1o Ag61ejy1o " ++
  "Ag61sCMuReunm Ag61sCMuReuy8E Ag61e9y0I Ag61eEy0I Ag61ePy0I Ag61ePy0IlzF Ag61ecy0I Ag61ejy0I Ag61ePlzFzUq Ag61ePlzFzUr Ag61eclzFyEb Ag61eclzFztU Ag61eclzFyEbK Ag61eclzFyEbeM Ag61fDlzFyvX Ag61fOlzFzkJ Ag61fOlzFy7LK Ag61fOlzFy7LeM Ag61fClzF#if Ag61fClzF#ig Ag61fWlzFyTQ Ag61fWlzFzk8 Ag61fWlzFzk9 Ag61fWlzFyTQK Ag61eEjIkj Ag61ePjIkj Ag61ecjIkj Ag61ejjIkj Ag61fDjIkj Ag61e9wk Ag61eEwk Ag61ePwk Ag61ecwk Ag61ecwklzF Ag61ejwk Ag61ejwklzF Ag61#4a Ag61#4Z Ag61e9yR6 Ag61eEyR6 Ag61e9rbnm Ag61eEuvnm Ag61ejycOnm Ag61e9rblzFK Ag61eEuvlzFK Ag61e9l1jI Ag61e9l6jI Ag61ayB3e9yHb Ag61ayB3e9l6 Ag61e9l6y76 Ag61e9f6y76 Ag61y30e9rb Ag61y30eEuv Ag61y30mq Ag61y30lT Ag61ece8lzF Ag61eje8lzF Ag61fDe8lzF Ag61fOe8lzF Ag61fCe8lzF Ag61fWe8lzF !12470 AgS1ayB3nvy0U AgS1ehlp AgS1gJlp AgS1gJyeh AgS1gJ#H4 !12480 A1oFMj9kj A1oFMuq A1wgMtM A1okMnmkj A1y2WMog A1y2WMlX A1y2WMjt A1n2fgn2MyXK A1gNMq2 A1mpMos A1wsMlv A1wsMe8e8e8 A1yCQMmm A1lcMyAz A1lcMjI A1lcMjImnd A1lcMy6O A1lcMyCb A1lcMy0f A1lcMgR A1lcMnc A1lcMx5jM A1lcMo1 A1lcMfQ A1lcMlE A1lcMlvjM A1lcMqI A1lcMos A1lcMy1E A1lcMy1EeuqI A1lcMzrW A1lcMh# A1lcMh#Mos A1lcMyEgeuo1 A1lcMxH A1lcMyE& A1lcMmH A1lcMlX A1lcMjh A1lcMkI A1lcMnrjM A1rpMos A1rpMpC A1y0fhK A1tMlqtM A1m2pzMjI A1m2pzMlE A1m2pzMlvjM A1m2pzMg1 A1m2pzMr& A1m2pzMle A1m2pzMyE& A1m2pzMoA A1m2MoA A1hqMy2W A1hqMwsjM A1hqMlcMlvjM A1hqMlcMqI A1hqMyR2 A1hqMgR A1hqMmPeuoo A1hqMmPeulW A1hqMfQeuK A1hqMy1EeuqI A1hqMh# A1hqMh#Mos A1hqMyEg A1hqMpX A1hqMlW A1hqMlWeurp A1hqMlWeunc A1hqMrZ A1hqMyg# A1y6#ipl5jc A1yDGMe8 A1o1Mo1lqo1 A1x6MlvjM A1pTeuo1Mq2 A1fQkjjM A1lEMjIfglEMjI A1eoMn2 A1eoMeo A1eoMe8e8e8 A1eoMuz A1iuMsOfgsO A1zrV A1zrX A1zrY A1zrZ A1yUm A1zra A1zrb A1yUnfgyUnjM A1zrc A1yUofgyUo A1zrd A1zre A1zrf A1zrg A1zrh A1zri A1zrj A1zrk A1zrl A1zrm A1zrn A1zro A1zrp A1zrq A1zrr A1zrs A1zrt A1zru A1y1F A1y1FMpS A1y1FMlv A1y1FMpCeuy1J A1y1FMpCeupCeuy1J A1y1FMqbeugu A1zrv A1zrw A1zrx A1zry A1zrz A1zr# A1zr& A1zs0 A1zs1 A1zs2 A1sg A1sgMjI A1sgMok A1sgMwvjMjM A1sgMy1D A1sgMg1 A1sgMxl A1sgMlI A1sgMqb A1sgMmm A1sgMy2C " ++
  "A1zs3 A1tY A1tYMy0X A1tYMgR A1tYMlv A1tYMlvjM A1tYMlX A1tYMpCeupCeuy1J A1tYMyHOeune A1tYMmm A1tYMy2C A1zs5 A1zs6 A1lOjMMjI A1lOMnm A1lOMy0s A1lOMpC A1lOMpCeupCeuy1J A1lOMq2 A1mHeuygq A1pXfgpXMgR A1pXfgpXMtX A1mzMwsjM A1mzMo1 A1mzMySP A1mzMlE A1mzMyU3 A1mzMyUm A1mzMxH A1mzMpCeupC A1mzMe8 A1mzMe8eue8 A1mzMy2C A1majMMfQ A1maMjK A1maMkImnd A1maMq2 A1ybnkj A1kIfgkI A1kIeuvZ A1kIeuyXP A1kIeuy1m A1uqeulcMlX A1uqeurpMlB A1nrMq2 A1q2euma A1y5EMo0kj A1y5EMePnm A1sGid A1sGMmm A1n0MyPa A1n0Mzs4 A1n0My1J A1ygq A1sOfgsOeuy1m A1yJjMePnmkj !12f90 gX1z4S gX1z4T gX1z4U gX1z4V gX1z4W gX1z4X gX1z4Y gX1z4Z gX1z4a gX1z4b gX1z4c gX1z4d gX1z4e gX1z4f gX1z4g gX1z4h gX1z4i gX1z4j gX1z4k gX1z4l gX1z4m gX1z4n gX1z4o gX1z4p gX1z4q gX1z4r gX1z4s gX1z4t gX1z4u gX1z4v gX1z4w gX1z4x gX1z4y gX1z4z gX1z4# gX1z4& gX1z50 gX1z51 gX1z52 gX1z53 gX1z54 gX1z55 gX1z56 gX1z57 gX1z58 gX1z59 gX1z5A gX1z5B gX1z5C gX1z5D gX1z5E gX1z5F gX1z5G gX1z5H gX1z5I gX1z5J gX1z5K gX1z5L gX1z5M gX1z5N gX1z5O gX1z5P gX1z5Q gX1z5R gX1z5S gX1z5T gX1z5U gX1z5V gX1z5W gX1z5X gX1z5Y gX1z5Z gX1z5a gX1z5b gX1z5c gX1z5d gX1z5e gX1z5f gX1z5g gX1z5h gX1z5i gX1z5j gX1z5k gX1z5l gX1z5m gX1z5n gX1z5o gX1z5p gX1z5q gX1z5r gX1z5s gX1z5t gX1z5u gX1z5v gX1z5w gX1z5x gX1z5y gX1z5z gX1z5# !13000 D6yJm D6yJn D6yJo D6yJp D6yJq D6yhN D6yJr D6yhO D6yhP D6yJs D6yJt D6yJu D6yJv D6yJw D6yJx D6yJy D6yJz D6yhR D6yJ# D6yJ& D6yK0 D6yhS D6yK1 D6yK2 D6yK3 D6yK4 D6yK5 D6yK6 D6yK7 D6yK8 D6yK9 D6yKA D6yKB D6yKC D6yKD D6yKE D6yKF D6yhV D6yKG D6yKH D6yKI D6yKJ D6yKK D6yKL D6yKM D6yKN D6yhX D6yKO D6yKP D6yhZ D6yKQ D6yha D6yKR D6yKS D6yKT D6yKU D6yKV D6yKW D6yKX D6yKY D6yKZ D6yKa D6yKb D6yKc D6yKd D6yKe D6yKf D6yKg D6yKh D6yKi D6yKj D6yKk D6yKl D6yKm D6yKn D6yKo D6yKp D6yKq D6yKr D6yKs D6yNJ D6yNK D6yNL D6yNM D6yNN D6ywJ D6yNO D6yNP D6yNQ D6yNR D6z0r D6z0s D6z0t D6z0u D6z0v D6z0w D6z0x D6z0y D6z0z D6z0# D6z0& D6z10 D6z11 D6z12 D6z13 D6z14 D6z15 D6z16 D6z17 D6z18 D6z19 D6z1A D6z1B D6z1C D6z1D D6z1E D6z1F D6z1G D6zJi D6zJj D6zJk D6zJl D6zJm D6zJn D6zJo D6zJp D6zJq " ++
  "D6zJr D6zJs D6zJt D6zJu D6zJv D6zJw D6zJx D6zJy D6zJz D6zJ# D6zJ& D6zK0 D6zK1 D6zK2 D6zK3 D6zK4 D6zK5 D6zK6 D6zK7 D6zK8 D6zK9 D6zKA D6zKB D6zKC D6zKD D6zKE D6zKF D6zKG D6zKH D6zKI D6zKJ D6zKK D6zKL D6zKM D6zKN D6zKO D6zKP D6zKQ D6zKR D6zKS D6zKT D6zKU D6zKV D6zKW D6zKX D6zKY D6zKZ D6zKa D6zKb D6zKc D6zKd D6zKe D6zKf D6zKg D6zKh D6zKi D6zKj D6zKk D6zKl D6zKm D6zKn D6zKo D6zKp D6zKq D6zKr D6zKs D6zKt D6zKu D6zKv D6zKw D6zKx D6zKy D6zKz D6zK# D6zK& D6zL0 D6zL1 D6zL2 D6zL3 D6zL4 D6zL5 D6zL6 D6zL7 D6zT3 D6zT4 D6zT5 D6zT6 D6zT7 D6zT8 D6zT9 D6zTA D6zTB D6zTC D6zTD D6zTE D6zTF D6zTG D6zTH D6zTI D6zTJ D6zTK D6zTL D6zTM D6zTN D6zTO D6zTP D6zTQ D6zTR D6zTS D6zTT D6zTU D6zTV D6zTW D6zTX D6zTY D6zTZ D6zTa D6zTb D6zTc D6zTd D6zTe D6zTf D6zTg D6zTh D6zTi D6zTj D6zTk D6zVS D6zVT D6zVU D6zVV D6zVW D6zVX D6zVY D6zVZ D6zVa D6zVb D6zVc D6zVd D6zVe D6zVf D6zVg D6zVh D6zVi D6zVj D6zVk D6zVl D6zVm D6zVn D6zVo D6zVp D6zVq D6zVr D6zVs D6zVt D6zVu D6zVv D6zVw D6zVx D6zVy D6zVz D6zV# D6zV& D6zW0 D6zW1 D6zW2 D6zW3 D6zW4 D6zW5 D6zW6 D6zW7 D6zW8 D6zW9 D6zWA D6zWB D6zWC D6zWD D6zWE D6zWF D6zWG D6zWH D6zWI D6zWJ D6zWK D6zWL D6zWM D6zWN D6zWO D6zWP D6zWQ D6zWR D6zWS D6zYe D6zYf D6zYg D6zYh D6zYi D6zYj D6zYk D6zYl D6zYm D6zYn D6zYo D6zYp D6zYq D6zYr D6zYs D6zYt D6zYu D6zYv D6zYw D6zYx D6zYy D6zYz D6zY# D6zY& D6zZ0 D6zZ1 D6zZ2 D6zZ3 D6zZ4 D6zZ5 D6zZ6 D6zZ7 D6zZ8 D6zZ9 D6zZA D6zZB D6zZC D6zZD D6zZE D6zZF D6zZG D6zZH D6zZI D6zZJ D6zZK D6zZL D6zZM D6zZN D6zZO D6zZP D6zZQ D6zZR D6zZS D6zZT D6zZU D6zZV D6zZW D6zZX D6zZY D6zZZ D6zZa D6zZb D6zZc D6zZd D6zcm D6zcn D6zco D6zcp D6zcq D6zcr D6zcs D6zct D6zcu D6zih D6zii D6zij D6zik D6zil D6zim D6zin D6zio D6zip D6ziq D6zir D6zis D6zit D6ziu D6ziv D6ziw D6zix D6ziy D6ziz D6zmX D6zmY D6zmZ D6zma D6zmb D6zmc D6zmd D6zme D6zqz D6zq# D6zq& D6zr0 D6zr1 D6zr2 D6zr3 D6zr4 D6zr5 D6zr6 D6yVc D6zun D6zuo D6yVd D6yVe D6zup D6yVf D6yVg D6yVh D6yVi D6yVj D6yVk D6yVl D6zuq D6yVm D6yVn D6zur D6zus D6zut D6zuu D6zuv D6zuw D6zux D6zuy D6yVo D6yVp D6yVq D6zuz D6yVr D6zu# D6yVs " ++
  "D6zu& D6yVt D6yVu D6yVv D6yVw D6yVx D6zv0 D6yVy D6yVz D6zv1 D6yV# D6yV& D6yW0 D6yW1 D6zv2 D6yW2 D6yW3 D6yW4 D6zv3 D6yW5 D6yW6 D6zv4 D6zv5 D6yW7 D6yW8 D6yW9 D6yWA D6yWB D6yWC D6yWD D6zv6 D6yWE D6yWF D6yWG D6yWH D6#0l D6#0m D6#0n D6#0o D6#0p D6#0q D6#0r D6#0s D6#0t D6#0u D6#0v D6#0w D6#0x D6#0y D6#0z D6#0# D6#0& D6#10 D6#11 D6#12 D6#13 D6#14 D6#15 D6#16 D6#17 D6#18 D6#19 D6#1A D6#1B D6#1C D6#1D D6#1E D6#1F D6#1G D6#1H D6#1I D6#1J D6#1K D6#1L D6#1M D6#1N D6#1O D6#1P D6#1Q D6#1R D6#1S D6#1T D6#1U D6#1V D6#5N D6#5O D6#5P D6#5Q D6#5R D6#5S D6#5T D6#5U D6#5V D6#5W D6#5X D6#5Y D6#5Z D6#5a D6#5b D6#5c D6#5d D6#5e D6#5f D6#5g D6#5h D6#5i D6#7F D6#7G D6#7H D6#7I D6#7J D6#7K D6#7L D6#7M D6#7N D6#7O D6#7P D6#7Q D6#7R D6#7S D6#7T D6#7U D6#7V D6#7W D6#7X D6#7Y D6#7Z D6#7a D6#7b D6#7c D6#7d D6#7e D6#90 D6#91 D6#92 D6#93 D6#94 D6#95 D6#96 D6#97 D6#98 D6#99 D6#9A D6#9B D6#9C D6#9D D6#9E D6#9F D6#9G D6#9H D6#9I D6#9J D6#9K D6#9L D6#9M D6#9N D6#9O D6#9P D6#9Q D6#9R D6#9S D6#9T D6#9U D6#9V D6#9W D6#9X D6#9Y D6#9Z D6#9a D6#9b D6#9c D6#9d D6#9e D6#9f D6#9g D6#9h D6#9i D6#9j D6#9k D6#9l D6#9m D6#9n D6#9o D6#9p D6#9q D6#9r D6#9s D6#9t D6#9u D6#9v D6#9w D6#9x D6#9y D6#9z D6#9# D6#9& D6#A0 D6#A1 D6#A2 D6#A3 D6#A4 D6#A5 D6#A6 D6#A7 D6#A8 D6#A9 D6#AA D6#BK D6#BL D6#BM D6#BN D6#BO D6#BP D6#BQ D6#BR D6#BS D6#BT D6#BU D6#BV D6#BW D6#GK D6#GL D6#GM D6#GN D6#GO D6#GP D6#GQ D6#Hg D6#Hh D6#Hi D6#Hj D6#Hk D6#Hl D6#Hm D6#Hn D6#Ho D6#Hp D6#Hq D6#Hr D6#Hs D6#Ht D6#Hu D6#Hv D6#Hw D6#Hx D6#Hy D6#Hz D6#H# D6#H& D6#I0 D6#I1 D6#I2 D6#I3 D6#I4 D6#I5 D6#I6 D6#I7 D6#I8 D6#I9 D6#IA D6#IB D6#Ln D6#Lo D6#Lp D6#Lq D6#Lr D6#Ls D6#Lt D6#Lu D6#Lv D6#Lw D6#Lx D6#Ly D6#Lz D6#L# D6#L& D6#M0 D6#M1 D6#M2 D6#M3 D6#M4 D6#M5 D6#M6 D6#M7 D6#M8 D6#M9 D6#MA D6#MB D6#MC D6#MD D6#ME D6#MF D6#MG D6#MH D6#MI D6#MJ D6#MK D6#ML D6#MM D6#MN D6#MO D6#MP D6#MQ D6#MR D6#MS D6#MT D6#MU D6#MV D6#MW D6#MX D6#MY D6#MZ D6#Ma D6#Mb D6#Mc D6#aE D6#aF D6#aG D6#aH D6#aI D6#aJ D6#aK D6#aL D6#aM D6#aN D6#aO D6#aP D6#aQ D6#aR D6#aS D6#aT D6#aU D6#aV " ++
  "D6#aW D6#aX D6#aY D6#aZ D6#aa D6#ab D6#ac D6#ad D6#ae D6#af D6#ag D6#ah D6#ai D6#aj D6#ak D6#al D6#am D6#an D6#ao D6#ap D6#aq D6#ar D6#as D6#at D6#au D6#av D6#gx D6#gy D6#gz D6#g# D6#g& D6#h0 D6#h1 D6#h2 D6#h3 D6#h4 D6#h5 D6#h6 D6#h7 D6#h8 D6#h9 D6#hA D6#hB D6#hC D6#hD D6#hE D6#hF D6#hG D6#hH D6#hI D6#hJ D6#hK D6#hL D6#hM D6#hN D6#hO D6#hP D6#hQ D6#hR D6#hS D6#hT D6#hU D6#hV D6#hW D6#hX D6#hY D6#hZ D6#ha D6#hb D6#hc D6#hd D6#he D6#hf D6#it D6#iu D6#iv D6#iw D6#ix D6#iy D6#iz D6#i# D6#i& D6#j0 D6#j1 D6#j2 D6#j3 D6#j4 D6#j5 D6#j6 D6#j7 D6#j8 D6#j9 D6#jA D6#jB D6#jC D6#jD D6#jE D6#jF D6#jG D6#jH D6#jI D6#jJ D6#jK D6#jL D6#jM D6#jN D6#jO D6#jP D6#jQ D6#jR D6#jS D6#jT D6#jU D6#jV D6#jW D6#jX D6#jY D6#jZ D6#ja D6#jb D6#jc D6#jd D6#je D6#jf D6#jg D6#jh D6#ji D6#jj D6#jk D6#jl D6#jm D6#jn D6#jo D6#jp D6#jq D6#jr D6#js D6#jt D6#ju D6#jv D6#jw D6#jx D6#jy D6#jz D6#j# D6#j& D6#k0 D6#k1 D6#k2 D6#k3 D6#mO D6#mP D6#mQ D6#mR D6#mS D6#mT D6#mU D6#mV D6#mW D6#mX D6#mY D6#mZ D6#ma D6#mb D6#mc D6#md D6#me D6#mf D6#mg D6#mh D6#mi D6#mj D6#mk D6#ml D6#mm D6#mn D6#mo D6#mp D6#mq D6#mr D6#ms D6#mt D6#ob D6#oc D6#od D6#oe D6#of D6#og D6#oh D6#oi D6#oj D6#ok D6#ol D6#om D6#pW D6#pX D6#pY D6#pZ D6#pa D6#pb D6#pc D6#pd D6#pe D6#ri D6#rj D6#rk D6#rl D6#rm D6#rn D6#ro D6#rp D6#rq D6#rr D6#rs D6#rt D6#ru D6#rv D6#rw D6#rx D6#ry D6#rz D6#r# D6#r& D6#s0 D6#s1 D6#s2 D6#s3 D6#s4 D6#s5 D6#s6 D6#s7 D6#s8 D6#s9 D6#sA D6#sB D6#sC D6#sD D6#sE D6#sF D6#sG D6#sH D6#sI D6#sJ D6#sK D6yqh D6yqi D6yqj D6yqk D6yql D6yqm D6yqn D6yqo D6yqp D6yqq D6yqr D6yqs D6yqt D6yqu D6yqv D6yqw D6yqx D6yqy D6yqz D6yq# D6yq& D6yr0 D6yr1 D6yr2 D6yr3 D6yr4 D6yr5 D6yr6 D6yr7 D6yr8 D6yr9 D6yrA D6yrB D6yrC !13430 D6ehxA D6g4xA D6y7MmnkBy4y D6y7MmnlCy4y D6y7MmnkBm1 D6y7MmnlCm1 D6npea D6v9yHE D6m1yHE !14400 Q6yJm Q6yJn Q6yJo Q6yJp Q6yJq Q6yJr Q6yJs Q6yJt Q6yJu Q6yJv Q6yhQ Q6yJw Q6yJx Q6yJy Q6yJz Q6yJ# Q6yJ& Q6yK0 Q6yK1 Q6yK2 Q6yK3 Q6yK4 Q6yK5 Q6yK6 Q6yK7 Q6yK8 Q6yK9 Q6yhT Q6yKA Q6yKB Q6yKC Q6yKD Q6yKE Q6yKF Q6yKG Q6yKH Q6yKI Q6yKJ " ++
  "Q6yKK Q6yKL Q6yKM Q6yhW Q6yKN Q6yKO Q6yhY Q6yKP Q6yKQ Q6yKR Q6yKS Q6yKT Q6yKU Q6yhb Q6yhc Q6yKV Q6yKW Q6yKX Q6yKY Q6yKZ Q6yKa Q6yKb Q6yKc Q6yKd Q6yKe Q6yKf Q6yKg Q6yKh Q6yKi Q6yKj Q6yKk Q6yKl Q6yKm Q6yKn Q6yKo Q6yhd Q6yhe Q6yhf Q6yKp Q6yKq Q6yKr Q6yKs Q6yhg Q6yhh Q6yhi Q6yhj Q6yhk Q6yhl Q6yhm Q6yhn Q6yho Q6yhp Q6yhq Q6yhr Q6yhs Q6yht Q6yhu Q6yhv Q6yhw Q6yhx Q6yhy Q6yhz Q6yh# Q6yh& Q6yi0 Q6yi1 Q6yi2 Q6yi3 Q6yi4 Q6yi5 Q6yi6 Q6yi7 Q6yi8 Q6yi9 Q6yiB Q6yiC Q6yiD Q6yiE Q6yiF Q6yiG Q6yiH Q6yiI Q6yiJ Q6yiK Q6yiL Q6yiM Q6yiN Q6yiO Q6yiP Q6yiQ Q6yiR Q6yiS Q6yiT Q6yiU Q6yiV Q6yiW Q6yiX Q6yiY Q6yiZ Q6yia Q6yib Q6yic Q6yid Q6yie Q6yif Q6yig Q6yih Q6yii Q6yik Q6yil Q6yim Q6yin Q6yio Q6yip Q6yiq Q6yir Q6yis Q6yit Q6yiu Q6yiv Q6yix Q6yiy Q6yiz Q6yi# Q6yi& Q6yj0 Q6yj1 Q6yj2 Q6yj3 Q6yj4 Q6yj5 Q6yj6 Q6yj7 Q6yj8 Q6yj9 Q6yjA Q6yjB Q6yjC Q6yjD Q6yjE Q6yjF Q6yjG Q6yjH Q6yjI Q6yjJ Q6yjK Q6yjL Q6yjM Q6yjN Q6yjO Q6yjP Q6yjQ Q6yjR Q6yjS Q6yjT Q6yjU Q6yjV Q6yjW Q6yjX Q6yjY Q6yjZ Q6yja Q6yjb Q6yjc Q6yjd Q6yje Q6yjf Q6yjg Q6yjh Q6yji Q6yjj Q6yjk Q6yjl Q6yjm Q6yjn Q6yjo Q6yjp Q6yjq Q6yjr Q6yjs Q6yjt Q6yju Q6yjv Q6yjw Q6yjx Q6yjy Q6yjz Q6yj# Q6yj& Q6yk0 Q6yk1 Q6yk2 Q6yk3 Q6yk4 Q6yk5 Q6yk6 Q6yk7 Q6yk8 Q6yk9 Q6ykA Q6ykB Q6ykC Q6ykD Q6ykE Q6ykF Q6ykG Q6ykH Q6ykI Q6ykJ Q6ykK Q6ykL Q6ykM Q6ykN Q6ykO Q6ykP Q6ykQ Q6ykR Q6ykS Q6ykT Q6ykU Q6ykV Q6ykW Q6ykX Q6ykY Q6ykZ Q6yka Q6ykb Q6ykc Q6ykd Q6yke Q6ykf Q6ykg Q6ykh Q6yki Q6ykj Q6ykk Q6ykl Q6ykm Q6ykn Q6yko Q6ykp Q6ykq Q6ykr Q6yks Q6ykt Q6yku Q6ykv Q6ykw Q6ykx Q6yky Q6ykz Q6yk# Q6yk& Q6yl0 Q6yl1 Q6yl2 Q6yl3 Q6yl4 Q6yl5 Q6yl6 Q6yl7 Q6yl8 Q6yl9 Q6ylA Q6ylB Q6ylC Q6ylD Q6ylE Q6ylF Q6ylG Q6ylH Q6ylI Q6ylJ Q6ylK Q6ylL Q6ylM Q6ylN Q6ylO Q6ylP Q6ylQ Q6ylR Q6ylS Q6ylT Q6ylU Q6ylV Q6ylW Q6ylX Q6ylY Q6ylZ Q6yla Q6ylb Q6ylc Q6yld Q6yle Q6ylf Q6ylg Q6ylh Q6yli Q6ylj Q6ylk Q6ylm Q6yKt Q6yKu Q6yKv Q6yKw Q6yKx Q6yKy Q6yKz Q6yK# Q6yln Q6yK& Q6yL0 Q6yL1 Q6yL2 Q6ylq Q6yL3 Q6yL4 Q6yL5 Q6yL6 Q6yL7 Q6yL8 Q6yL9 Q6yLA Q6yLB Q6yLC Q6yLD Q6yLE Q6yLF Q6yLG Q6yLH Q6yLI Q6ylu Q6yLJ " ++
  "Q6yLK Q6ylw Q6ylx Q6yly Q6yLL Q6yLM Q6yLN Q6yLO Q6ylz Q6yl# Q6yl& Q6yLP Q6yLQ Q6yLR Q6yLS Q6yLT Q6yLU Q6yLV Q6yLW Q6yLX Q6yLY Q6yLZ Q6yLa Q6yLb Q6yLc Q6yLd Q6yLe Q6yLf Q6yLg Q6yLh Q6yLi Q6yLj Q6yLk Q6yLl Q6ym0 Q6yLm Q6yLn Q6yLo Q6yLp Q6yLq Q6ym1 Q6yLr Q6yLs Q6yLt Q6yLu Q6ym2 Q6yLv Q6yLw Q6yLx Q6ym3 Q6ym4 Q6ym5 Q6ym6 Q6ym7 Q6ym8 Q6ym9 Q6ymA Q6ymB Q6ymC Q6ymD Q6ymE Q6ymF Q6ymGfqgrpu Q6ymH Q6ymI Q6ymJ Q6ymK Q6ymL Q6ymM Q6ymN Q6ymO Q6ymP Q6ymQ Q6ymR Q6ymSfC Q6ymT Q6ymU Q6ymV Q6ymW Q6ymX Q6ymY Q6ymZ Q6ymb Q6ymd Q6ymf Q6ymh Q6ymj Q6yml Q6ymn Q6ymp Q6ymr Q6ymtv9vle2 Q6ymvm1vle2 Q6ymw Q6ymy Q6ym# Q6yn0 Q6yn2 Q6yn4 Q6yn6 Q6yn8 Q6ynA Q6ynB Q6ynC Q6ynD Q6ynE Q6ynF Q6ynG Q6ynH Q6ynI Q6ynJ Q6ynK Q6ynL Q6ynM Q6ynN Q6ynO Q6ynP Q6ynQ Q6ynR Q6ynS Q6ynT Q6ynU Q6ynV Q6ynW Q6ynX Q6ynY Q6ynZ Q6yna Q6ynb Q6ync Q6ynd Q6yne Q6ynf Q6yng Q6ynh Q6yni Q6ynj Q6ynk Q6ynl Q6ynm Q6ynn Q6yno Q6ynp Q6ynq Q6ynr Q6yns Q6ynt Q6ynu Q6ynv Q6ynw Q6ynx Q6yny Q6ynz Q6yn# Q6yn& Q6yo0 Q6yo1 Q6yo2 Q6yo3 Q6yo4 Q6yo5 Q6yo6 Q6yo7 Q6yo8 Q6yo9 Q6yoA Q6yoB Q6yoC Q6yoD Q6yoE Q6yoF Q6yoG Q6yoH Q6yoI Q6yoJ Q6yoK Q6yoL Q6yoM Q6yoN Q6yoO Q6yoP Q6yoQ Q6yLy Q6yLz Q6yL# Q6yL& Q6yM0 Q6yM1 Q6yoR Q6yM2 Q6yM3 Q6yM4 Q6yM5 Q6yM6 Q6yM7 Q6yoS Q6yM8 Q6yM9 Q6yoT Q6yoU Q6yoV Q6yMA Q6yMB Q6yoW Q6yMC Q6yMD Q6yME Q6yMF Q6yMG Q6yMH Q6yMI Q6yMJ !16800 N0hEyXpvp N0hEza4zXx N0hEy4ZvpyZm N0hEy4ZvpyZl N0hEy1Nvp N0hE#UV N0hEyeJvp N0hEyFuvp N0hE#Twfly1T N0hEy4Zfly1TyZm N0hEy4Zfly1TyZl N0hEzxn N0hEnWyEn N0hE#3G N0hEzxq N0hEzyE N0hE#0c N0hE#SI N0hE#74 N0hEzn& N0hE#5L N0hEyA1 N0hE#3v N0hEzsF N0hEyEYy7m N0hEy8Vzzg N0hEzxl N0hE#CZ N0hEzb4 N0hE#Bz N0hErKyXk N0hE#8dyF0 N0hEe8yJZyXM N0hEzb3 N0hEy8VyYD N0hE#VM N0hEzzs N0hEzzc N0hEz&f N0hEzn1 N0hEflyEW N0hEy1QyEW N0hE#DK N0hEzxp N0hE#4c N0hEyaA N0hE#fr N0hEzuN N0hE#WC N0hE#cF N0hEzxs N0hExE N0hE#2R N0hEzqJ N0hEz&e N0hE#UZ N0hEzu0 N0hEzXS N0hE#KY N0hEzpt N0hE#WF N0hEy3t#Ds N0hE#Tz N0hEy8V N0hEyHSyFmygh N0hEyYWz&X N0hE#BZ N0hEyY5 N0hE#iJ N0hEyFX N0hEyWK N0hEyX& N0hEyWU N0hEyFs N0hEye1 N0hEyHl N0hEyZ0 " ++
  "N0hEyYB N0hEyEm N0hEqv N0hEznE N0hEyFl N0hEwb N0hEnA N0hEyFU N0hEyXR N0hEzyu N0jP#6t N0jPnWzxo N0jP#V0 N0jPupnW N0jPyVNy8W N0jPy3wzxm N0jPzog N0jP#qZ N0jPzyt N0jPzn6 N0jP#D1 N0jP#pyyEW N0jPh#yFmy8Y N0jP#73#Ts N0jPy8N#4q N0jPzb6 N0jPyZo N0jPnWyYC N0jPybu#4s N0jP#Tr N0jPvpye2 N0jPyEtzys N0jPqvy8W N0jPzo2 N0jPzb5 N0jPzo5 N0jPzrE N0jP#CX N0jP#lK N0jP#3uyXC N0jP#3VyEw N0jP#oO N0jP#Mv N0jP#b1 N0jPzzd N0jPyXm N0jPyXmgv N0jPzzl N0jPyd8 N0jPzyx N0jPz&d N0jP#7u N0jP#Fv N0jPyF0#3U N0jPzX9 N0jPzz2 N0jPw& N0jPznx N0jPg0#4v N0jPg0#59 N0jPyEY N0jPyXi N0jP#6o N0jPg0 N0jPzoq N0jPyFb N0gdyXpyEn N0gdyFu N0gdygh N0gd#nC N0gdyFX N0gd#2V N0gd#3o N0gdza& N0gdzyv N0gdza0 N0gd#85z&2yWk N0gd#77yEt N0gdyWW N0gd#EG N0gd#2h N0gdy1Kz1J N0gdzo4 N0gdza# N0gdzn# N0gdk##0L N0gd#8R N0gdzz0 N0gd#6p N0gdyEt N0gd#qY N0gdzpq N0gdy7W N0gdyHK N0gd#2a N0gd#b3 N0gdyY4 N0gdyeJ#rO N0gd#Yd N0gd#3Zy8Y N0gd#lL N0gd#1o N0gdg0zny N0gdyYD N0gd#3e N0gdyER N0gdzyz N0gdzzt N0gd#71 N0gd#cG N0gd#3c N0gdyRd N0gd#2W N0gd#6n N0gd#6q N0gdz0Q N0gd#lJ N0gdzyw N0gdnq N0gdyFg N0gdh# N0gd#dX N0gd#6#yFb N0gd#4t N0gdxE N0gdyFa N0gdyWK N0gdzy& N0gdnA N0gdy7m N0gdyX& N0gdyFb N0gd#oU N0gd#3b N0gd#6x N0gd#70 N0gdyEKyY5 N0gd#6z N0gdyXV N0gdg0yYC N0gdy2K N0gdyFP N0gd#UW N0gd#SG N0gdyEs N0gdyEn N0gdyWU N0gdzo3 N0gdzyy N0gdyU4 N0gdy1K#Dp N0gdygj N0gdyY0 N0gdyWp N0gdyX9 N0gdybx N0gdy17yUz N0gdy17zWu N0gd#3I N0gdyXR N0gdzte N0gdyZj N0gdy1b N0gdxq N0fwzz1 N0fwyfs N0fwy1T N0fwvp N0fw#4y N0fwztC N0fw#4w N0fw#6r N0fw#3R N0fwy8Y N0fw#oN N0fw#3x N0fwy9c N0fw#3n N0fwznz N0fw#cE N0fw#Tp N0fw#4r N0fwyd8 N0fwxE N0fw#pw N0fwzqI N0fwybV N0fwzzj N0fw#2X N0fwzy4 N0fwyF0 N0fw#SH N0fwy5T N0fw#4u N0fwzo0zy# N0fw#3r N0fwnW N0fwyS7 N0fw#3z N0fwzX8 N0fwyFQ N0fwzz& N0fwzsw N0fw#2i N0fwz&Y N0fwzzx N0fw#G8 N0fwzzz N0fwzzm N0fws0 N0fw#6v N0fwy1K N0fwzqZ N0fwyFs N0fwye1 N0fwyHl N0fwygj N0fwyU4 N0fw#IM N0fw#bv N0fw#3q N0fwzzh N0fw#6w N0fwzo1 N0fwyZk N0fw#DQ N0fw#8D N0fwyEY N0fwyXi N0fwzzk N0fw#3h N0fw#rT N0fwpC N0fwygi N0fwyXV N0fwy8W N0fw#Yb N0fwyUc N0fw#3X N0fw#3t " ++
  "N0fwyf2 N0fwyWk N0fwzqN N0fw#6y N0fw#cD N0fwzxr N0fw#3S N0fwzsx N0fw#3d N0fwyFm N0fwyY4 N0fwyS9 N0fwo2 N0fwy9Fa N0fwyIH N0fwyeQ N0fwqv N0fwy9P N0fwyV1 N0fwyEz N0fwg8 N0fwyA1 N0fwks N0fwy9e N0fwybv N0fwy7q N0fwlw N0fwqX N0fwyFn N0fwug N0fwlX N0fwyHS N0fw#Fz N0fwyXC N0fwy81 N0fwy9Fy3& N0fwow N0fwyYF N0fwy1KfO N0fw#NJ N0fwy6m N0f8yFP N0f8#e5 N0f8yWW N0f8yER N0f8#lz N0f8zu9 N0f8y8h N0f8ycf N0f8#Ia N0f8#6u N0f8#2m N0f8yGg N0f8xk N0f8yXo N0f8zps N0f8ygA N0f8xX N0f8yXk N0f8yZ0 N0f8y25 N0f8yEK N0f8yVN N0f8yYB N0f8yXs N0f8yEm N0f8#3s N0f8#3& N0f8#6s N0f8#K7 N0f8yY0 N0f8#C& N0f8y9T N0f8#3g N0f8yWl N0f8zb8 N0f8#3p N0f8yX# N0f8y3t N0f8yVO N0f8#3T N0f8#2e N0f8#b7y8W N0f8up N0f8#Fr N0f8y8L#W8 N0f8#3ay8Y N0f8#qf N0f8zb7 N0f8#fq N0f8#qV N0f8pD N0f8#fx N0f8znw N0f8#Yc N0f8ye2 N0f8#lI N0f8#na N0f8yEP N0f8rU N0f8#b2 N0f8zaw N0f8#3N N0f8#Tq N0f8zzw N0f8y87 N0f8#8N N0f8#5M N0f8za2 N0f8y5E N0f8zqC N0f8ygK N0f8qvz4E N0f8yJX N0f8zzi N0f8#2Z N0f8#Dr N0f8#rP N0f8zsv N0f8yRd N0f8za3 N0f8#3y N0f8xE N0f8yWJ N0f8#3m N0f8zb2 N0f8kh N0f8#79 N0f8#DP N0f8#qX N0f8#3W N0f8qvn1 N0f8#8g N0f8#Et N0f8yWp N0f8zYP N0f8yXM N0f8yX9 N0f8yS9 N0f8uQeI N0f8#0d N0f8#Fm N0f8#3w N0f8y7m N0f8#Du N0f8y8V N0f8#qW N0f8#3f N0f8flyZL N0f8uQyBb N0f8yD1 N0f8y4A N0f8K N0f8yeQ N0f8eD N0f8eI N0f8zsG N0f8fl#Eb N0f8xh N0f8#bP N0f8y8LyXIy0y N0f8ybx N0f8#qa N0f8#43 N0f8#rM N0f8yAj#ZF N0f8yAjyC0 N0f8yJZ N0f8#rR N0f8yU5 N0f8yGI N0f8y4AzUg N0f8ya9 N0f8yJL N0f8w& N0f8wb N0f8nA N0f8mH N0f8yGw N0f8y1g N0f8#44 N0f8hv N0f8ss N0f8yHS N0f8uQ#JC N0f8g5 N0f8jh N0f8y81 N0f8nO N0f8sj N0f8g0 N0f8yWP N0f8#cC N0f8ne N0f8rK N0f8hU N0f8zWq N0f8zbC N0jXeo N0jXe8 N0jXo2 N0jXka N0jXy4i N0jXyIH N0jXqv N0jXg1 N0jXy9P N0jXyav N0jXyEz N0jXxh N0jXy8L N0jXyFg N0jXg8 N0jXyA1 N0jXy9e N0jXnr N0jXyHK N0jXy7q N0jXxE N0jXyYH N0jXlw N0jXyY3 N0jXyAj N0jXqX N0jXgB N0jXyFl N0jXyGI N0jXyFn N0jXyJL N0jXug N0jXnq N0jXlX N0jXyGw N0jXy17 N0jXyXq N0jXy48 N0jXss N0jXyGg N0jXyD1 N0jXi7 N0jXij N0jXy81 N0jXnO N0jXyWV N0jXy9F N0jXg0 N0jXo6 N0jXy1K N0jXxq N0jXy3m N0jXybS N0jX#m7 " ++
  "!16a40 kX0gC kX0y8P kX0l# kX0y8D kX0gu kX0gN kX0K kX0nS kX0yU9 kX0zdW kX0zLL kX0y66 kX0znh kX0j# kX0yEm kX0yFf kX0fl kX0k2 kX0eD kX0nC kX0y1p kX0#cQ kX0yCd kX0i7 kX0eG kX0nO kX0yUr kX0g1 kX0zdD kX0pu kX0#bz !16a60 kXEgx kXEe9 kXEeE kXEeP kXEec kXEej kXEfD kXEfO kXEfC kXEfW !16a6e kXmF kXeBmF h70#BJ h70#AN h70yF& h70y8g h70yNI h70y5Y h70y2V h70yNF h70#mM h70#kM h70#m5 h70#mG h70y34 h70y2& h70zUh h70y6i h70zlA h70yDg h70yDr h70yTa h70#iq h70yAP h70#iR h70#io h70ywE h70ywB h70ywD h70yNE h70#i2 h70#hw h70#hy h70#i1 h70eAoc h70g2yfN h70iDyfO h70iDyNE h70#hp h70yfO h70#ht h70yfN h70#i0 h70#hz h70#h# h70#h& h70#0i h70yWX h70z&x h70#0e h70eo h70if h70gR h70hv h70gG h70gB h70i7 h70fl h70ih h70jS h70gu h70g0 h70g5 h70fQ h70g1 h70yT3 h70gC h70gN h70fq h70y1S h70i0 h70i3 h70mM h70k7 h70zhT h70j2 h70qc h70kh h70k1 h70ic h70jt !16ac0 h7Egx h7Ee9 h7EeE h7EeP h7Eec h7Eej h7EfD h7EfO h7EfC h7EfW !16ad0 kolJ0zUS kolJ0eo kolJ0o8 kolJ0kh kolJ0y86 kolJ0ygV kolJ0yRm kolJ0zM& kolJ0zpo kolJ0sb kolJ0zho kolJ0i7 kolJ0sN kolJ0yDD kolJ0oV kolJ0u8 kolJ0#in kolJ0eQ kolJ0gu kolJ0xx kolJ0#qM kolJ0fl kolJ0#n3 kolJ0K kolJ0eD kolJ0k2 kolJ0e8 kolJ0ka kolJ0eG kolJ0eI !16af0 kolJVfcfX kolJVfVfX kolJVxJfX kolJVzuKfX kolJVzerfX kolJjgi1 !16b00 fienGznj fienGznm fienGzod fienGzoy fienGznQ fienGznT fienGzqB fienGzqV fienGzni fienGzo6 fienGzn2 fienGzn4 fienGzpb fienGzpe fienGznV fienGznX fienGzq9 fienGzqA fienGzpT fienGzpl fienGzob fienGzoc fienGyTs fienGznU fienGzqb fienGzqe fienGzms fienGzmz fienh9#kJ fienh9#76 fienh9zsM fienh9jC fienh9#5j fienh9#Ig fienh9#5K fienh9#Gg fienh9#qD fienh9ze& fienh9zyk fienh9z2q fienh9#2P fienh9zfy fienh9#EU fienh9#72 fienh9#1r fienh9hw fienh9#op fienh9z1v fiene2pk#fs fiene2pknG fiene2pkznv fiene2pkzoD fiene2pk#Ye fiene2pkzgS fiene2pk#bX fien1xw#ch fien1xw#fMz2L fien1pkz2u fien1xw#cW fien1xwzW# fien1yAe#7B fien1yAemj fien1yAe#eE fien1yAezWg fien1xw#N& fien1yWb#Ya fien1xw#6a fien1yDfygI fien1#oq fien1pk#fRyH2 !16b50 fienEgx fienEe9 fienEeE fienEeP fienEec fienEej fienEfD " ++
  "fienEfO fienEfC fienEfW !16b5b fienTsx fienTyDd fienThUwU fienTxK fienTfUxK fienThUy&G fienT#ec !16b63 fien1xwzuO fien1#pO fien1yDY fien1#cbyDY fien1#td#cL fien1zgC fien1#6N fien1#ow fien1#78 fien1y06 fien1#gRz2M fien1yWb#fK fien1pJ fien1zuD fien1#0V fien1pkzdFzuayYEyYE fien1pkzJJ#fO fien1pkyfF fien1pkyfFz3l fien1pk#FnzLd fien1pk#6T#eB !16b7d fienoS1#fN fienoS1#qL fienoS1ztf fienoS1zsO fienoS1#pP fienoS1y3k fienoS1zdg fienoS1#06 fienoS1#cg fienoS1#fJ fienoS1#DV fienoS1zo8 fienoS1zdM fienoS1#k5 fienoS1zWk fienoS1yJP fienoS1#fU fienoS1zqc fienoS1#mF !16e40 g&50g8 g&50ex g&50gZ g&50hc g&50yNB g&50gs g&50yUU g&50hI g&50gT g&50gP g&50iB g&50eI g&50gV g&50K g&50hh g&50eG g&50eM g&50hB g&50e8 g&50k# g&50f7 g&50j6 g&50y7G g&50yYR g&50hK g&50gg g&50kS g&50fn g&50ew g&50eD g&50hY g&50gw g&30g8 g&30ex g&30gZ g&30hc g&30yNB g&30gs g&30yUU g&30hI g&30gT g&30gP g&30iB g&30eI g&30gV g&30K g&30hh g&30eG g&30eM g&30hB g&30e8 g&30k# g&30f7 g&30j6 g&30y7G g&30yYR g&30hK g&30gg g&30kS g&30fn g&30ew g&30eD g&30hY g&30gw g&Egx g&Ee9 g&EeE g&EeP g&Eec g&Eej g&EfD g&EfO g&EfC g&EfW g&ThU g&Trq g&Tqa g&TwS g&TvT g&TsW g&Ttp g&TwC g&TuJ g&Tvw g&Ee9kmF g&EeEkmF g&EePkmF g&i& g&jgi1 g&BytX g&n4y4G !16f00 fH0fl fH0gu fH09fl fH0y8v fH0g0 fH0yWm fH0kng0 fH0kh fH0jT fH0#lO fH0gC fH0gN fH09jo fH09gC fH0jo fH0jp fH0g5 fH0y1S fH09kN fH0kng5 fH0kN fH0#5u fH0g1 fH0zue fH0vh fH0zt7 fH0yIe fH0zNt fH0#dg fH0zNu fH0eo fH0gR fH09eo fH0od fH0#Gd fH0hv fH0yXn fH0knhv fH0fQ fH0qc fH0k7 fH0yDI fH0#fS fH0zSy fH0ih fH0yYU fH0qZ fH0y2# fH09qZ fH09y2# fH0ukqZ fH0i0 fH0kx fH0oE fH0#tS fH0mM fH0rD fH09mM fH0gG fH0jt fH0#tR fH0yAq fH0#tz fH0knyAq fH0#u4 fH0#t# fH0i7 fH0re fH0uU fH0z05 fH0#ZN fH0zSx fH0lI fH0r0 fH0#L3 !16f4f fH1h9eLfF fH0yFM fH1yN8 fH1ukyfm fH1ukyN8 fHG1K fHG1h5 fHG1ytO fHG1lB fHG1r6 fHG1eD fHG1k2 fHG1nk fHG1hc fHG1eG fHG1jK fHG1rr fHG1#AV fHG1eI fHG1y7J fHG1yTD fHG1zi# fHG1yDq fHG1pW fHG1hg fHG1y3Z fHG1yDl fHG1e8 fHG1y29 fHG1#hg fHG1#hh fHG1i2 fHG1#hr fHG1#iE fHG1gw fHG19 fHG1lj fHG1yMV fHG1y6h " ++
  "fHG1qVy6h fHG1qE fHG1qVqE fHG1hY fHG1uI fHG1hw fHG1v& fHG1fn fHG1oc fHG1#iL fHG1#rQ fHG1#AY fHG1#AU fHG1#mD fHG1yTL fHG1yCd fHG1zks fHG1yAR !16f8f fHfXb fHfXkBb fHfXc fHfXeH fH0tu fH0uw fH0xt fH0tv fH0yAC fH0yIi fH0yAD fH0uky59 fH0uktu fH0ukxt fH0uktv fH0ukyAC fH0ukyAD !16fe0 HuYe2 #7quYe2 atCege2 atCuYe2 zoH3fruN !16ff0 yfikmyafe2i3 yfikmyafe2#4E !18800 Hz6N Hz6O Hz6P Hz6Q Hz6R Hz6S Hz6T Hz6U Hz6V Hz6W Hz6X Hz6Y Hz6Z Hz6a Hz6b Hz6c Hz6d Hz6e Hz6f Hz6g Hz6h Hz6i Hz6j Hz6k Hz6l Hz6m Hz6n Hz6o Hz6p Hz6q Hz6r Hz6s Hz6t Hz6u Hz6v Hz6w Hz6x Hz6y Hz6z Hz6# Hz6& Hz70 Hz71 Hz72 Hz73 Hz74 Hz75 Hz76 Hz77 Hz78 Hz79 Hz7A Hz7B Hz7C Hz7D Hz7E Hz7F Hz7G Hz7H Hz7I Hz7J Hz7K Hz7L Hz7M Hz7N Hz7O Hz7P Hz7Q Hz7R Hz7S Hz7T Hz7U Hz7V Hz7W Hz7X Hz7Y Hz7Z Hz7a Hz7b Hz7c Hz7d Hz7e Hz7f Hz7g Hz7h Hz7i Hz7j Hz7k Hz7l Hz7m Hz7n Hz7o Hz7p Hz7q Hz7r Hz7s Hz7t Hz7u Hz7v Hz7w Hz7x Hz7y Hz7z Hz7# Hz7& Hz80 Hz81 Hz82 Hz83 Hz84 Hz85 Hz86 Hz87 Hz88 Hz89 Hz8A Hz8B Hz8C Hz8D Hz8E Hz8F Hz8G Hz8H Hz8I Hz8J Hz8K Hz8L Hz8M Hz8N Hz8O Hz8P Hz8Q Hz8R Hz8S Hz8T Hz8U Hz8V Hz8W Hz8X Hz8Y Hz8Z Hz8a Hz8b Hz8c Hz8d Hz8e Hz8f Hz8g Hz8h Hz8i Hz8j Hz8k Hz8l Hz8m Hz8n Hz8o Hz8p Hz8q Hz8r Hz8s Hz8t Hz8u Hz8v Hz8w Hz8x Hz8y Hz8z Hz8# Hz8& Hz90 Hz91 Hz92 Hz93 Hz94 Hz95 Hz96 Hz97 Hz98 Hz99 Hz9A Hz9B Hz9C Hz9D Hz9E Hz9F Hz9G Hz9H Hz9I Hz9J Hz9K Hz9L Hz9M Hz9N Hz9O Hz9P Hz9Q Hz9R Hz9S Hz9T Hz9U Hz9V Hz9W Hz9X Hz9Y Hz9Z Hz9a Hz9b Hz9c Hz9d Hz9e Hz9f Hz9g Hz9h Hz9i Hz9j Hz9k Hz9l Hz9m Hz9n Hz9o Hz9p Hz9q Hz9r Hz9s Hz9t Hz9u Hz9v Hz9w Hz9x Hz9y Hz9z Hz9# Hz9& HzA0 HzA1 HzA2 HzA3 HzA4 HzA5 HzA6 HzA7 HzA8 HzA9 HzAA HzAB HzAC HzAD HzAE HzAF HzAG HzAH HzAI HzAJ HzAK HzAL HzAM HzAN HzAO HzAP HzAQ HzAR HzAS HzAT HzAU HzAV HzAW HzAX HzAY HzAZ HzAa HzAb HzAc HzAd HzAe HzAf HzAg HzAh HzAi HzAj HzAk HzAl HzAm HzAn HzAo HzAp HzAq HzAr HzAs HzAt HzAu HzAv HzAw HzAx HzAy HzAz HzA# HzA& HzB0 HzB1 HzB2 HzB3 HzB4 HzB5 HzB6 HzB7 HzB8 HzB9 HzBA HzBB HzBC HzBD HzBE HzBF HzBG HzBH HzBI HzBJ HzBK HzBL HzBM HzBN HzBO HzBP HzBQ HzBR HzBS HzBT HzBU " ++
  "HzBV HzBW HzBX HzBY HzBZ HzBa HzBb HzBc HzBd HzBe HzBf HzBg HzBh HzBi HzBj HzBk HzBl HzBm HzBn HzBo HzBp HzBq HzBr HzBs HzBt HzBu HzBv HzBw HzBx HzBy HzBz HzB# HzB& HzC0 HzC1 HzC2 HzC3 HzC4 HzC5 HzC6 HzC7 HzC8 HzC9 HzCA HzCB HzCC HzCD HzCE HzCF HzCG HzCH HzCI HzCJ HzCK HzCL HzCM HzCN HzCO HzCP HzCQ HzCR HzCS HzCT HzCU HzCV HzCW HzCX HzCY HzCZ HzCa HzCb HzCc HzCd HzCe HzCf HzCg HzCh HzCi HzCj HzCk HzCl HzCm HzCn HzCo HzCp HzCq HzCr HzCs HzCt HzCu HzCv HzCw HzCx HzCy HzCz HzC# HzC& HzD0 HzD1 HzD2 HzD3 HzD4 HzD5 HzD6 HzD7 HzD8 HzD9 HzDA HzDB HzDC HzDD HzDE HzDF HzDG HzDH HzDI HzDJ HzDK HzDL HzDM HzDN HzDO HzDP HzDQ HzDR HzDS HzDT HzDU HzDV HzDW HzDX HzDY HzDZ HzDa HzDb HzDc HzDd HzDe HzDf HzDg HzDh HzDi HzDj HzDk HzDl HzDm HzDn HzDo HzDp HzDq HzDr HzDs HzDt HzDu HzDv HzDw HzDx HzDy HzDz HzD# HzD& HzE0 HzE1 HzE2 HzE3 HzE4 HzE5 HzE6 HzE7 HzE8 HzE9 HzEA HzEB HzEC HzED HzEE HzEF HzEG HzEH HzEI HzEJ HzEK HzEL HzEM HzEN HzEO HzEP HzEQ HzER HzES HzET HzEU HzEV HzEW HzEX HzEY HzEZ HzEa HzEb HzEc HzEd HzEe HzEf HzEg HzEh HzEi HzEj HzEk HzEl HzEm HzEn HzEo HzEp HzEq HzEr HzEs HzEt HzEu HzEv HzEw HzEx HzEy HzEz HzE# HzE& HzF0 HzF1 HzF2 HzF3 HzF4 HzF5 HzF6 HzF7 HzF8 HzF9 HzFA HzFB HzFC HzFD HzFE HzFF HzFG HzFH HzFI HzFJ HzFK HzFL HzFM HzFN HzFO HzFP HzFQ HzFR HzFS HzFT HzFU HzFV HzFW HzFX HzFY HzFZ HzFa HzFb HzFc HzFd HzFe HzFf HzFg HzFh HzFi HzFj HzFk HzFl HzFm HzFn HzFo HzFp HzFq HzFr HzFs HzFt HzFu HzFv HzFw HzFx HzFy HzFz HzF# HzF& HzG0 HzG1 HzG2 HzG3 HzG4 HzG5 HzG6 HzG7 HzG8 HzG9 HzGA HzGB HzGC HzGD HzGE HzGF HzGG HzGH HzGI HzGJ HzGK HzGL HzGM HzGN HzGO HzGP HzGQ HzGR HzGS HzGT HzGU HzGV HzGW HzGX HzGY HzGZ HzGa HzGb HzGc HzGd HzGe HzGf HzGg HzGh HzGi HzGj HzGk HzGl HzGm HzGn HzGo HzGp HzGq HzGr HzGs HzGt HzGu HzGv HzGw HzGx HzGy HzGz HzG# HzG& HzH0 HzH1 HzH2 HzH3 HzH4 HzH5 HzH6 HzH7 HzH8 HzH9 HzHA HzHB HzHC HzHD HzHE HzHF HzHG HzHH HzHI HzHJ HzHK HzHL HzHM HzHN HzHO HzHP HzHQ HzHR HzHS HzHT HzHU HzHV HzHW HzHX HzHY HzHZ HzHa HzHb HzHc HzHd HzHe HzHf HzHg HzHh HzHi HzHj HzHk " ++
  "HzHl HzHm HzHn HzHo HzHp HzHq HzHr HzHs HzHt HzHu HzHv HzHw HzHx HzHy HzHz HzH# HzH& HzI0 HzI1 HzI2 HzI3 HzI4 HzI5 HzI6 HzI7 HzI8 HzI9 HzIA HzIB HzIC HzID HzIE HzIF HzIG HzIH HzII HzIJ HzIK HzIL HzIM !1aff0 eV0rJtu eV0rJuw eV0rJxt eV0rJtv !1aff5 eV0rJyIi eV0rJyAD eV0rJxNy59 eV0rJxNtu eV0rJxNuw eV0rJxNxt eV0rJxNtv !1affd eV0rJxNyIi eV0rJxNyAD !1b000 eV0kneG gp0knq3 eO0yhG eO0yhH eO0yhI eO0yhM eO0ziO eO0ziP eO0ziQ eO0ziR eO0#gl eO0#gm eO0#gn eO0#go eO0#gp eO0zSz eO0zS# eO0zS& eO0zT0 eO0zT1 eO0#8q eO0#8r eO0#8s eO0zmg eO0zmj eO0zmk eO0zml eO0zmm eO0zmn eO0zmo eO0zmp eO0zmq eO0zmh eO0zmi eO0zmr eO0zoT eO0zoU eO0zoV eO0zoW eO0zoX eO0zoY eO0zoZ eO0zoa eO0zq0 eO0zq1 eO0zq2 eO0zq3 eO0zq4 eO0zq5 eO0zq6 eO0znb eO0znc eO0znd eO0zne eO0znf eO0zng eO0zpN eO0zpO eO0zpP eO0zpQ eO0#Md eO0ybL eO0#Me eO0#Mf eO0#Mg eO0#Mh eO0#Mi eO0#Mj eO0#Ur eO0#Us eO0#Ut eO0#Uu eO0#Uv eO0#Uw eO0#YS eO0#YT eO0#YU eO0#YV eO0#YW eO0#YX eO0#YY eO0#YZ eO0#No eO0#Np eO0#Nq eO0#Nr eO0#Ns eO0#Vz eO0#V# eO0#V& eO0#W0 eO0#W1 eO0#W2 eO0#W3 eO0#aw eO0ydi eO0#ax eO0#ay eO0#d2 eO0#d3 eO0#d4 eO0#d5 eO0#d6 eO0#d7 eO0#d8 eO0#fl eO0#fm eO0#fn eO0#fo eO0#fp eO0#be eO0ydu eO0#bf eO0#bg eO0#bh eO0#bi eO0#bj eO0#bk eO0#bl eO0#di eO0#dj eO0#dk eO0#dl eO0#dm eO0#dn eO0#do eO0#1W eO0yXJ eO0#1X eO0#1Y eO0#1Z eO0#1a eO0#1b eO0#1c eO0#1d eO0#4H eO0#4I eO0#4J eO0#4K eO0#4L eO0#4M eO0#4N eO0#4O eO0#7C eO0#7D eO0#7E eO0#2s eO0yXX eO0#2t eO0#2u eO0#2v eO0#2w eO0#2x eO0#5x eO0#5y eO0#5z eO0#5# eO0#5& eO0zcv eO0zcy eO0zcz eO0zc# eO0zc& eO0zd0 eO0zd1 eO0zd2 eO0zd3 eO0zcw eO0zcx eO0zeY eO0zeZ eO0zea eO0zeb eO0zec eO0zed eO0zee eO0zhU eO0zhV eO0zhW eO0zdn eO0zdo eO0zdp eO0zdq eO0zdr eO0zds eO0zdt eO0zgG eO0zgH eO0zgI eO0zgJ eO0zgK eO0zgL eO0zgM eO0zgN eO0zxW eO0zxX eO0zxY eO0zxZ eO0zxa eO0zxb eO0zxc eO0z#L eO0z#M eO0z#N eO0z#O eO0z#P eO0z#Q eO0z#R eO0#01 eO0#02 eO0#03 eO0#04 eO0zz5 eO0zz6 eO0zz7 eO0z&5 eO0z&6 eO0z&7 eO0z&8 eO0z&9 eO0z&A eO0#pf eO0#pg eO0#ph eO0#pi eO0#pj eO0ygG eO0#rC eO0#rD eO0#rE eO0#rF eO0#qp eO0#qq eO0#qr eO0#qs " ++
  "eO0#qt eO0#qu eO0#IC eO0yaU eO0#ID eO0#IE eO0#Jd eO0#Je eO0#Jf eO0#Jg eO0#Jh eO0#Ji eO0#Jj eO0#L5 eO0#L6 eO0#L7 eO0#L8 eO0#L9 eO0#LA eO0#Im eO0#In eO0#Io eO0#Ip eO0#KJ eO0#KK eO0#KL eO0#KM eO0#KN eO0#KO eO0#mu eO0#mv eO0#mw eO0#mx eO0#my eO0#ng eO0#nh eO0#ni eO0#nj eO0#nk eO0#nN eO0#nO eO0#nP eO0#nQ eO0#nx eO0#ny eO0#nz eO0#n# eO0#n& eO0#o0 eO0#o1 eO0#0j eO0#0k gp0knt1 eV0kn9 eV0knq3 eV0knt1 !1b150 gp03oC gp03nL gp03nk !1b164 eV03oC eV03nL eV03nk eV03fn !1bc00 fN0gi fN0hK fN0hI fN0gT fN0iB fN0gV fN0f7 fN0eM fN0gg fN0gZ fN0gP fN0ew fN0hIfn fN0ggex fN0iBfn fN0gVg8 fN0ewex fN0wO fN0uryP& fN0yP& fN0y7e fN0urhh fN0zey fN0yEa fN0#Ja fN0g8 fN0fn fN0hh fN0ex fN0g8fn fN0fng8 fN0hhg8 fN0exhh fN0g82eJ fN0fn2eJ fN0hh2eJ fN0hh2fZorOc fN0ex2eJ fN0ex2eJeH fN0g8ex fN0fnex fN0hhex fN0exex fN0g8fnex fN0fng8ex fN0hhg8ex fN0exhhex fN0hhex2eJ fN0hhfn fN0hhfnex fN0exgT fN0exgTew fN0exhI fN0exhIew fN0gTex fN0gTewex fN0hc fN0#nd fN0hcew fN0exfn fN0exg8 fN0gVewex fN0gPewex fN0exgV fN0exgVew fN0K fN0ury4M fN0y4F fN0eD fN0yuf fN0eI fN0eG fN0pW fN0iDeI fN0yAR fN0ka fN0urtL fN0ybAeI fN0urka fN0g2eI fN0q3 fN0e8 fN0uM fN0yJN fN0e8fn fN0g2e8 fN0ybAe8 fN0yI& fN0ure8 fN0#Ao fN0y4M fN0v& fN0i7 fN0nk fN0oC fN0yf& fN0#oF fN0y44e8 fN0y44eD fN0y44eI fN0y44K fN0yZPlB fN0yZPt5 fN0urjK fN0urlB fN0uria fN0fJg8 !1bc70 fNlodg4wB fNloxJg4wB fNlobg4wB fNlofVehwB fNloxJehwB fNlofcehwB fNlooHwB fNlooHy3rwB fNlooHydm fNlooHj1 fNlooHeGeg fNlooHeIeg fNlooHydmeg !1bc80 fNlofcgt fNlofcyIZgt fNlofciM fNlofcg2iM fNlofceJ fNlofcfG fNlofciN fNlofcln fNlofceh !1bc90 fNlofVgt fNlofVyIZgt fNlofViM fNlofVg2iM fNlofVeJ fNlofVfG fNlofViN fNlofVln fNlofVeh fNlofVR !1bc9c fN1eD2jf fN#cX0y4q fNeBe2 fNgSz3Ijgi1 y9hy6v0yG2 y9hy6vzIcyG2 y9hy6vfByHw y9hy6vevyHw !1cf00 esVe2y3Kvxexr#iad esVe2vxexr#iad esVe2yIsiad esVe2y3Kvxiad esVe2vxiad esVe2yctiad esVe2xGrRiad esVe2rRiad esVe2y2Giad esVe2xGrRexy19iad esVe2rRexy19iad esVe2y2Gexy19iad esVe2y3Kvxexr#iab esVe2vxexr#iab esVe2yIsiab esVe2y3Kvxiab esVe2vxiab esVe2yctiab esVe2xGrRiab " ++
  "esVe2rRiab esVe2y2Giab esVe2xGrRexy19iab esVe2rRexy19iab esVe2y2Gexy19iab esVe2yIsexr# esVe2xGrRexr# esVe2yH&xGrR esVe2rRexr# esVe2rRyH& esVe2y2Gexr# esVe2xGrRyH& esVe2y3Ky2G esVe2#sb esVe2ia esVe2#Ih esVe2yA9 esVe2y&m esVe2#hm esVe2#Ei esVe2zt& esVe2zqM esVe2zm# esVe2#se esVe2#Va esVe2#Il esVe2y7jiad !1cf30 esVq&y4he2z&z esVq&y4he2#ZA esVq&y4he2#eT esVe2ygs esVe2yPuygs esVe2#B8 esVe2yGR esVe2yGR2eheW esVe2yBf esVe2yBf#Eo esVe2#AH esVe2ycgyYA esVe2#dr esVe2zSn esVyvuehyYi esVe2oTyYi esVe2y7j esVf3q&y4hlk esy4beLzsy esy4beLzsz esy4beLy6PyRQ esy4beLy7j esy4beLyH2 !1cf50 esf#yUa esf#yUayeG esf##CR esf#zSjgZz2# esf#yUK esf##sQ esf#yH# esf#yH#ex#AP esf#yZO esf#yZOy46 esf#yH#2ycgyYA esf#yOq esf##Bq esf#wf esf#y3Jy&n esf#y3JyeG esf#y3Jz&& esf#y3J#ZB esf#y3J#eU esf#wdy90 esf#wdyFD esf#wdwM esf#wdyAG esf#wdsey90 esf#wdseyFD esf#wdsewM esf#wdseyAG esf#eBwf esf#hGyOq esf#zMZ esf#zoA esf#yBf esf#yGR esf#suyFD esf#suwM esf#suyAG esf#suyA9 esf#yPuyUK esf#susewM esf#suyUL esf#suseyA9 esf#suy0Yy90 esf#suy0YwM esf#suy0Yy46 esf#suy0Yse esf#y9p esf#y9pexy2N esf#y9p#sO esf#y9pexr# esf#y7j esf#yH2 esf#x0 esf#zpU esf##tL esf#sv esf#svexy2N esf#svexr# esf#svexy2NeIr# esf#svexr#eIy2N esf#svygt esf#svygtexy2N esf#svex#KV esf#svexzSo#sS esf#svexy2NeI#Eh esf##En esf#svy46 esf#liy90 esf#liz&# esf#lizp# esf#li#Eq esf#liy8& esf#liy46 esf#lizpH esf#liyUL esf#liyA9#G6 esf#liy0Y esf#lizSm esf#liyQS esf#liy0Yse esf#liyQSse esf#liy742hawf esf#liy0r2hawf esf#liy74 esf#liy0r esf#liy0r2eBwf esf#liy75 esf#liy75y8& esf#y3x esf#y3x#F5 esf#y3xzpJ esf#y3xzpI esf#y3xzpG esf#li#fD esf#li#fE esf#li#fF esf#y1W esf#y1WwM esf#y1WyAG esf#y1WsfwM esf#y1WsewM esf#y1Wsey46 esf#lisf esf#lisfy8& esf#lisfy742hawf esf#lisfy0r2hawf esf#lisfy74 esf#lisfy0r esf#lisfy0r2eBwf esf#lisfy75 esf#lisfy75y8& esf#lisf#fC esf#zqD esf##AI esf#zSQ esf##31 esf##Cm !1d000 eUZBhm eUZBzLZ eUZBkA eUZByG3y6b eUZByG3wt eUZByJ4y6b eUZByJ4wt eUZBznP eUZB#Zz eUZByG9 eUZByga eUZBygawt eUZBzpy eUZByMvy6b eUZByCny6b eUZBydv eUZBy3h eUZByA# eUZByA#wt " ++
  "eUZB#Zt eUZB#cd eUZByYgoj eUZBy3Loj eUZB#Fj eUZBz2i eUZB#kI eUZByDtoj eUZBy7Zoj eUZBy3hoj eUZB#NV eUZB#CT eUZByc#yuj eUZB#BGoj eUZB#kCoj eUZByMxoj eUZByul eUZBy7f eUZB#JX eUZByZZoj eUZB#dO eUZByuA eUZBybe eUZByIEoj eUZByIEzzV#Xn eUZByY#oj eUZBye3 eUZBzsi eUZBy6W eUZB#eW eUZByIN eUZBzpv eUZByMvyCnmy eUZBp4oj eUZBzkH eUZByAHoj eUZBznNyAH eUZByZI eUZBya8 eUZByUR eUZByOsoj eUZB#IZ eUZByG8oj eUZByG9oj eUZBzj1 eUZByXQ eUZB#DL eUZByURyAv eUZByAHyAv eUZB#X# eUZBzcB eUZByDtmy eUZByYgmy eUZByG3my eUZB#DM eUZBzpk eUZB#DN eUZBzpw eUZByZImy eUZBy3hmyv6 eUZBy7Zmyv6 eUZB#rA eUZByA#my eUZByMy#Zsmy eUZB#r9 eUZBzpx eUZBzU8 eUZBz2h eUZBz#kyDt eUZByJ4my eUZByZZmy eUZBya8my eUZB#Ac eUZByub eUZBzuf eUZByG9my eUZByG8my eUZByR8yG8 eUZBzqu eUZByua eUZByAHmy eUZBzU7 eUZByIEmy eUZB#Zy eUZByOsmy eUZBzUf eUZBybemy eUZB#p0y7f eUZB#en eUZB#Fg eUZB#el eUZB#em eUZB#Fh eUZB#eo eUZB#Fi eUZBzbu eUZByN3 eUZByR8yN3 eUZByY#my eUZBye4zUs eUZBye4yCn eUZBye3yMw eUZB#cTy15yum eUZBznO eUZBzUQ eUZBygTxD eUZBygTv6 eUZByc# eUZBy7fv6 eUZBwtoj eUZByEJoj eUZByEJyAv eUZByEJmy eUZByMxmy eUZBy2U eUZBwt eUZB#ee eUZB#cB eUZByEI eUZBy1GzUTyOt eUZBy1Gy6WyBk eUZBy1G#edyBk eUZBy1G#c8yBk eUZBy1GzkKyOt eUZBy3Lmyv6 eUZBy3Ly4PyB0 eUZBy3Ly4PyPz eUZBy6N eUZBy6Ny4PyB0xD eUZBy6Ny4PyB0v6 eUZBy6Ny4PyPz eUZB#eZ eUZByv4 eUZBzkF eUZBzN6 eUZBv3yZwyN2 eUZBv3yv5 eUZBv3yN2 eUZBv3zza eUZBv3zzT eUZBv3ySE eUZBv3zbv eUZBv3yZwySE eUZBrIya7rG eUZBrIyMjya7rG eUZBrIyP#rG eUZBrIyMjyP#rG eUZBrI#egrG eUZBrI#eY eUZBrIyIOrG eUZBrIyIOyV2rG eUZBrIyV2rG eUZBrIyZqrG eUZBzk#ydxyTF eUZByMyydxyTF eUZByCq#cA eUZByCqyX1 eUZByCqyQ2 eUZBrI#kErG eUZBrI#FdrG eUZBrIyZqyIOrG eUZBySFfnyMw eUZBySFfnzNS eUZBzUMy15p4yfo eUZBzkG eUZBzkI eUZBp4ojzMjzj2 eUZBp4wpfl eUZBp4wpyXQ eUZBp4#1prG eUZBp4wpoo eUZBp4yHdzN7oo eUZBp4wpoK eUZBp4wpsN eUZBp4wplXxD eUZBp4wplXv6 eUZBp4yWNy65yQ2 eUZBp4yWNy65yX1 eUZBzXDyHdy65#kF eUZBp4yHdy65#Zp eUZBp4#32 eUZByBj#te eUZByBjzpF eUZByBj#WT eUZBp4eIx#yd# eUZBp4zULyuZ eUZBx#yel eUZBwqyel eUZBwqyd# eUZBwqy2Uy6WvK eUZBwqyX2yINvK eUZBwqyQ3y6ivK " ++
  "eUZBwqyeiyYfvK eUZBx#y2Uy6WvK eUZBx#yX2yINvK eUZBx#yQ3y6ivK eUZBx#yeiyYfvK eUZByRzwq eUZByRzx# eUZBy6My2Uz#j eUZBy6My2UzzD eUZBy6Mwt eUZBy6My56 eUZBwEy56 eUZBwEy56yQ8 eUZBwEy56yek eUZBwEy56ye0 eUZBwEy5j eUZBwEy5jyQ8 eUZBwEy5jyek eUZBwEy5jye0 eUZBzNHzaS eUZBzNFv& eUZByHx eUZBwifl eUZBwiyfo eUZBwigR eUZBwioo eUZBwioK eUZBwisN eUZBwilX eUZBy3hmyyWi eUZBy7ZmyyWi eUZBy3hmyxD eUZBy7ZmyxD eUZBy7fxD eUZBy3LmyxD !1d100 ZBhay08 ZBeBy08 ZBeAy08 ZBoNeAy08 ZBrBy08 ZBiDy08 ZBdul1 ZBbul1 ZBulfZ ZBonybc ZBgNz1f ZBybc ZBz64 ZByGvzXF ZByGvzXG ZByGvzXH ZByCu ZByCueH ZByBQe2 ZBz1O ZBy&y ZBfP ZB#AfwG ZB#gOwG ZB#cowG ZBzYAwG ZBzXXwG ZB#VPwG ZB#VRyRc ZBzYCyRc ZBgPtD ZBgPtDy1Xy5c ZBgPtDy1Xko ZBhBtD ZBiBtD ZBiBtDy1Xy5c ZBiBtDy1Xko ZBy0Wz4F ZBy0Wz4G !1d129 ZBrLxIpF ZBeBxZ ZBeBx1 ZBx1ev ZBx1fB ZByFOev ZByFOfB ZBxZev ZBxZfB ZBl6fXxZ ZBl6fXx1 ZBz6HyIb ZByC8yIb ZBy1Xy5c ZBy1Xko ZByaNy5c ZByaNko ZB#0EpF ZByJGpF ZBf6pF ZBl6pF ZBl1pF ZBy1tpF ZByIRpF ZByHcpF ZBe9fUyf7pF ZBhKnQ ZBeunQ ZBfGhKnQ ZBe3nQeN ZBe3nQeF ZBg7nQeveN ZBg7nQeveF ZBg7nQdeN ZBg7nQdeF ZBg7nQbeN ZBg7nQbeF ZBg7nQfBeN ZBg7nQfBeF ZBg7nQevbeN ZBg7nQevbeF ZBmUnQeN ZBmUnQeF ZByegnQfBeN ZByegnQfBeF ZBkFnQ ZB#ltnQ ZBnQeF ZByYJnQ ZByO#nQeN ZByO#nQeF ZBjE ZByJGm# ZBf6m# ZBl6m# ZBl1m# ZBy1tm# ZByIRm# ZByHcm# ZBe9fUyf7m# ZBVsw ZBV#Wmsw ZBVyec ZBVyed ZBVyee ZByCxyec ZByCxyed ZByCxyee ZBVyvyeJ ZBVzXc ZBVzXd ZBVzXe ZBVzXf ZBVzXg ZBv9yNd ZBm1yNd ZBv9y24 ZBm1y24 ZBv9ycW ZBm1ycW ZBv9yZX ZBm1yZX ZBViS ZBV#XY ZBV#c5 ZBV#XX ZBVzyM ZBVzyN ZBVysl ZBVzuJ ZByN4ev ZByN4fB ZBVzO1 ZBV#KC ZBVyRQ ZBV#Vs ZBVy0A ZBVeBpf ZBVj8pf ZB#K9 ZB#Yg ZBgs ZB#Dm ZBzzf ZBzY7 ZBzJ6 ZBzMF ZByDNm#p# ZByDNm#kup# ZB#eH ZByAM ZBidyAM ZByAMp# ZByAMev ZBil#YD ZBil#YG ZBil#YH ZBil#YI ZBil#YJ ZBil#YK ZBil#YL ZBil#YM ZBil#YN ZBil#YE ZBil#YF ZBzdf ZB#2y ZBm1eY#Xu ZBy6Hp# ZBVfBy0E ZBVevy0E ZBVzdb ZBV#Vw#EL ZByGEe2 ZByGEeve2 ZBf6yGEe2 ZBySCev ZBySCfB ZB2zXM ZByPT ZByPTy2R ZBzym ZBy80 ZByOI ZByHHeN ZByHHeF ZByF5 ZByF5eF ZByHJeN ZByHJeF ZByRgeN ZByRgeF ZBy80y8qpF ZBy80y0zpF ZByOIpF ZByHHpF " ++
  "ZByF5pF ZByHJpF ZBwNyGGvGw6y8q ZBwNyGGvGw6y0z ZBwNyGGvGw6y8qyQ4 ZBwNy3VvGw6y8q ZBwNy3VvGw6y0z ZBwNy3VvGw6y0zyQ4 ZBwNy3VvGw6y0zzNN ZBwNy3VvGw6y0zzNO ZBzJ9 ZBySJhBtD ZBySJiBtD ZBe3eM ZB#lg ZB#Eg ZBz4L ZBybZ ZBz4H ZByeR ZByZy ZByZyyRP ZBybZyRP ZByeR#JR ZB#DI#Yl ZBschBtD ZBscm1eYw4 ZBsceAm# ZBsc#Ive2 ZBscyJGm# ZBscf6m# ZBscl6m#swfB ZBscl6m#swev ZBscl1m#swfB ZBscl1m#swev ZBscx11 ZB#WG ZBzph !1d200 XmdhlydN XmdhlydV Xmdhl#ZY XmdhlydY XmdhlydZ Xmdhl#Zm Xmdhlydf Xmdhlydg Xmdhl#Zn Xmdhl#ZO XmdhlydO XmdhlydP XmdhlydQ XmdhlydR Xmdhl#ZP Xmdhl#ZQ XmdhlydS XmdhlydT XmdhlydU Xmdhl#ZR Xmdhl#ZS Xmdhl#ZT XmdhlydW XmdhlydX Xmdhlyda Xmdhlydb Xmdhlydc Xmdhlydd Xmdhlyde XlFhlydN XlFhlydV XlFhlydY XlFhlydZ XlFhlydf XlFhlydg XlFhlydO XlFhlydP XlFhlydQ XlFhlydR XlFhlydS XlFhlydT XlFhlydU XlFhlydW XlFhlydX XlFhl#ZU XlFhl#ZV XlFhl#ZW XlFhl#ZX XlFhl#ZZ XlFhl#Za XlFhl#Zb XlFhl#Zc XlFhl#Zd XlFhl#Ze XlFhl#Zf XlFhl#Zg XlFhl#Zh XlFhl#Zi XlFhl#Zj XlFhl#Zk XlFhl#Zl XlFhlyda XlFhlydb XlFhlydc XlFhlydd XlFhlyde VXZyej VXZyd& VXZyZK XZy1G !1d2e0 obhogx obhoe9 obhoeE obhoeP obhoec obhoej obhofD obhofO obhofC obhofW obhohU obhorq obhoqa obhowS obhovT obhosW obhotp obhowC obhouJ obhovw !1d300 ude0pm uHe0zd&pm uHe0yDcpm uHe0yQey7B uHe0yQeyDc uHe0pm hbe0ie hbe0jgfG hbe0z#z hbe0yz& hbe0yU03 hbe0zIg hbe0yvU hbe0yF# hbe0z01ps hbe0zMIgrzNf hbe0zNi hbe0#r5 hbe0yDj hbe0#D4 hbe0yae hbe0y0L hbe0y0vrh hbe0yfq hbe0yRT hbe0ys& hbe0#JA hbe0#JO hbe0zTp hbe0yD# hbe0zIa hbe0zUO hbe0zSh hbe0z2m hbe0zMD hbe0P#JP hbe0#Be hbe0zsf hbe0z4M hbe0zop hbe0yD9 hbe0#Y7 hbe0#G0 hbe0zYR hbe0#JN hbe0yUzgrz&D hbe0yap hbe0zbmeQyWc hbe0zUN hbe0#Xz hbe0zc9 hbe0zUR hbe0eS hbe0#KF hbe0zXn hbe0#kGgr#nI hbe0zIY hbe0xI hbe0yCk hbe0#iI hbe0zNM hbe0kQjz hbe0zcG hbe0yD9it hbe0zyd hbe0ysp hbe0zUH hbe0zSD hbe0yfu hbe0#V9 hbe0yTT hbe0yPw hbe0yPc hbe0zNP hbe0zVE hbe0#SL hbe0#Xw hbe0zda hbe0yBs hbe0z4O hbe0zWi hbe0ytJ hbe0z6M hbe0iakU#kT hbe0zND hbe0zrJ hbe0zY9 !1d360 o&pGsFEe9 o&pGsFEeE o&pGsFEeP o&pGsFEec o&pGsFEej o&pGsFEfD o&pGsFEfO o&pGsFEfC " ++
  "o&pGsFEfW o&pGsxEe9 o&pGsxEeE o&pGsxEeP o&pGsxEec o&pGsxEej o&pGsxEfD o&pGsxEfO o&pGsxEfC o&pGsxEfW fsxje2e9 fsxje2eE fsxje2eP fsxje2ec fsxje2ej xje2e9 xje2ej !1d400 CP5K CP5eM CP5hB CP5gg CP5eG CP5iB CP5gP CP5gi CP5eI CP5hh CP5gV CP5f7 CP5g8 CP5fn CP5eD CP5hI CP5j6 CP5ew CP5ex CP5gT CP5e8 CP5gZ CP5hc CP5hK CP5gw CP5gs CP3K CP3eM CP3hB CP3gg CP3eG CP3iB CP3gP CP3gi CP3eI CP3hh CP3gV CP3f7 CP3g8 CP3fn CP3eD CP3hI CP3j6 CP3ew CP3ex CP3gT CP3e8 CP3gZ CP3hc CP3hK CP3gw CP3gs Ce45K Ce45eM Ce45hB Ce45gg Ce45eG Ce45iB Ce45gP Ce45gi Ce45eI Ce45hh Ce45gV Ce45f7 Ce45g8 Ce45fn Ce45eD Ce45hI Ce45j6 Ce45ew Ce45ex Ce45gT Ce45e8 Ce45gZ Ce45hc Ce45hK Ce45gw Ce45gs Ce43K Ce43eM Ce43hB Ce43gg Ce43eG Ce43iB Ce43gP !1d456 Ce43eI Ce43hh Ce43gV Ce43f7 Ce43g8 Ce43fn Ce43eD Ce43hI Ce43j6 Ce43ew Ce43ex Ce43gT Ce43e8 Ce43gZ Ce43hc Ce43hK Ce43gw Ce43gs CPe45K CPe45eM CPe45hB CPe45gg CPe45eG CPe45iB CPe45gP CPe45gi CPe45eI CPe45hh CPe45gV CPe45f7 CPe45g8 CPe45fn CPe45eD CPe45hI CPe45j6 CPe45ew CPe45ex CPe45gT CPe45e8 CPe45gZ CPe45hc CPe45hK CPe45gw CPe45gs CPe43K CPe43eM CPe43hB CPe43gg CPe43eG CPe43iB CPe43gP CPe43gi CPe43eI CPe43hh CPe43gV CPe43f7 CPe43g8 CPe43fn CPe43eD CPe43hI CPe43j6 CPe43ew CPe43ex CPe43gT CPe43e8 CPe43gZ CPe43hc CPe43hK CPe43gw CPe43gs Cfr5K !1d49e Cfr5hB Cfr5gg !1d4a2 Cfr5gP !1d4a5 Cfr5hh Cfr5gV !1d4a9 Cfr5fn Cfr5eD Cfr5hI Cfr5j6 !1d4ae Cfr5ex Cfr5gT Cfr5e8 Cfr5gZ Cfr5hc Cfr5hK Cfr5gw Cfr5gs Cfr3K Cfr3eM Cfr3hB Cfr3gg !1d4bb Cfr3iB !1d4bd Cfr3gi Cfr3eI Cfr3hh Cfr3gV Cfr3f7 Cfr3g8 Cfr3fn !1d4c5 Cfr3hI Cfr3j6 Cfr3ew Cfr3ex Cfr3gT Cfr3e8 Cfr3gZ Cfr3hc Cfr3hK Cfr3gw Cfr3gs CPfr5K CPfr5eM CPfr5hB CPfr5gg CPfr5eG CPfr5iB CPfr5gP CPfr5gi CPfr5eI CPfr5hh CPfr5gV CPfr5f7 CPfr5g8 CPfr5fn CPfr5eD CPfr5hI CPfr5j6 CPfr5ew CPfr5ex CPfr5gT CPfr5e8 CPfr5gZ CPfr5hc CPfr5hK CPfr5gw CPfr5gs CPfr3K CPfr3eM CPfr3hB CPfr3gg CPfr3eG CPfr3iB CPfr3gP CPfr3gi CPfr3eI CPfr3hh CPfr3gV CPfr3f7 CPfr3g8 CPfr3fn CPfr3eD CPfr3hI CPfr3j6 CPfr3ew CPfr3ex CPfr3gT CPfr3e8 CPfr3gZ CPfr3hc CPfr3hK CPfr3gw " ++
  "CPfr3gs CgY5K CgY5eM !1d507 CgY5gg CgY5eG CgY5iB CgY5gP !1d50d CgY5hh CgY5gV CgY5f7 CgY5g8 CgY5fn CgY5eD CgY5hI CgY5j6 !1d516 CgY5ex CgY5gT CgY5e8 CgY5gZ CgY5hc CgY5hK CgY5gw !1d51e CgY3K CgY3eM CgY3hB CgY3gg CgY3eG CgY3iB CgY3gP CgY3gi CgY3eI CgY3hh CgY3gV CgY3f7 CgY3g8 CgY3fn CgY3eD CgY3hI CgY3j6 CgY3ew CgY3ex CgY3gT CgY3e8 CgY3gZ CgY3hc CgY3hK CgY3gw CgY3gs Cgh5K Cgh5eM !1d53b Cgh5gg Cgh5eG Cgh5iB Cgh5gP !1d540 Cgh5eI Cgh5hh Cgh5gV Cgh5f7 Cgh5g8 !1d546 Cgh5eD !1d54a Cgh5ex Cgh5gT Cgh5e8 Cgh5gZ Cgh5hc Cgh5hK Cgh5gw !1d552 Cgh3K Cgh3eM Cgh3hB Cgh3gg Cgh3eG Cgh3iB Cgh3gP Cgh3gi Cgh3eI Cgh3hh Cgh3gV Cgh3f7 Cgh3g8 Cgh3fn Cgh3eD Cgh3hI Cgh3j6 Cgh3ew Cgh3ex Cgh3gT Cgh3e8 Cgh3gZ Cgh3hc Cgh3hK Cgh3gw Cgh3gs CPgY5K CPgY5eM CPgY5hB CPgY5gg CPgY5eG CPgY5iB CPgY5gP CPgY5gi CPgY5eI CPgY5hh CPgY5gV CPgY5f7 CPgY5g8 CPgY5fn CPgY5eD CPgY5hI CPgY5j6 CPgY5ew CPgY5ex CPgY5gT CPgY5e8 CPgY5gZ CPgY5hc CPgY5hK CPgY5gw CPgY5gs CPgY3K CPgY3eM CPgY3hB CPgY3gg CPgY3eG CPgY3iB CPgY3gP CPgY3gi CPgY3eI CPgY3hh CPgY3gV CPgY3f7 CPgY3g8 CPgY3fn CPgY3eD CPgY3hI CPgY3j6 CPgY3ew CPgY3ex CPgY3gT CPgY3e8 CPgY3gZ CPgY3hc CPgY3hK CPgY3gw CPgY3gs Ce75K Ce75eM Ce75hB Ce75gg Ce75eG Ce75iB Ce75gP Ce75gi Ce75eI Ce75hh Ce75gV Ce75f7 Ce75g8 Ce75fn Ce75eD Ce75hI Ce75j6 Ce75ew Ce75ex Ce75gT Ce75e8 Ce75gZ Ce75hc Ce75hK Ce75gw Ce75gs Ce73K Ce73eM Ce73hB Ce73gg Ce73eG Ce73iB Ce73gP Ce73gi Ce73eI Ce73hh Ce73gV Ce73f7 Ce73g8 Ce73fn Ce73eD Ce73hI Ce73j6 Ce73ew Ce73ex Ce73gT Ce73e8 Ce73gZ Ce73hc Ce73hK Ce73gw Ce73gs Ce7P5K Ce7P5eM Ce7P5hB Ce7P5gg Ce7P5eG Ce7P5iB Ce7P5gP Ce7P5gi Ce7P5eI Ce7P5hh Ce7P5gV Ce7P5f7 Ce7P5g8 Ce7P5fn Ce7P5eD Ce7P5hI Ce7P5j6 Ce7P5ew Ce7P5ex Ce7P5gT Ce7P5e8 Ce7P5gZ Ce7P5hc Ce7P5hK Ce7P5gw Ce7P5gs Ce7P3K Ce7P3eM Ce7P3hB Ce7P3gg Ce7P3eG Ce7P3iB Ce7P3gP Ce7P3gi Ce7P3eI Ce7P3hh Ce7P3gV Ce7P3f7 Ce7P3g8 Ce7P3fn Ce7P3eD Ce7P3hI Ce7P3j6 Ce7P3ew Ce7P3ex Ce7P3gT Ce7P3e8 Ce7P3gZ Ce7P3hc Ce7P3hK Ce7P3gw Ce7P3gs Ce7e45K Ce7e45eM Ce7e45hB Ce7e45gg Ce7e45eG Ce7e45iB Ce7e45gP Ce7e45gi Ce7e45eI Ce7e45hh Ce7e45gV " ++
  "Ce7e45f7 Ce7e45g8 Ce7e45fn Ce7e45eD Ce7e45hI Ce7e45j6 Ce7e45ew Ce7e45ex Ce7e45gT Ce7e45e8 Ce7e45gZ Ce7e45hc Ce7e45hK Ce7e45gw Ce7e45gs Ce7e43K Ce7e43eM Ce7e43hB Ce7e43gg Ce7e43eG Ce7e43iB Ce7e43gP Ce7e43gi Ce7e43eI Ce7e43hh Ce7e43gV Ce7e43f7 Ce7e43g8 Ce7e43fn Ce7e43eD Ce7e43hI Ce7e43j6 Ce7e43ew Ce7e43ex Ce7e43gT Ce7e43e8 Ce7e43gZ Ce7e43hc Ce7e43hK Ce7e43gw Ce7e43gs Ce7Pe45K Ce7Pe45eM Ce7Pe45hB Ce7Pe45gg Ce7Pe45eG Ce7Pe45iB Ce7Pe45gP Ce7Pe45gi Ce7Pe45eI Ce7Pe45hh Ce7Pe45gV Ce7Pe45f7 Ce7Pe45g8 Ce7Pe45fn Ce7Pe45eD Ce7Pe45hI Ce7Pe45j6 Ce7Pe45ew Ce7Pe45ex Ce7Pe45gT Ce7Pe45e8 Ce7Pe45gZ Ce7Pe45hc Ce7Pe45hK Ce7Pe45gw Ce7Pe45gs Ce7Pe43K Ce7Pe43eM Ce7Pe43hB Ce7Pe43gg Ce7Pe43eG Ce7Pe43iB Ce7Pe43gP Ce7Pe43gi Ce7Pe43eI Ce7Pe43hh Ce7Pe43gV Ce7Pe43f7 Ce7Pe43g8 Ce7Pe43fn Ce7Pe43eD Ce7Pe43hI Ce7Pe43j6 Ce7Pe43ew Ce7Pe43ex Ce7Pe43gT Ce7Pe43e8 Ce7Pe43gZ Ce7Pe43hc Ce7Pe43hK Ce7Pe43gw Ce7Pe43gs Ciw5K Ciw5eM Ciw5hB Ciw5gg Ciw5eG Ciw5iB Ciw5gP Ciw5gi Ciw5eI Ciw5hh Ciw5gV Ciw5f7 Ciw5g8 Ciw5fn Ciw5eD Ciw5hI Ciw5j6 Ciw5ew Ciw5ex Ciw5gT Ciw5e8 Ciw5gZ Ciw5hc Ciw5hK Ciw5gw Ciw5gs Ciw3K Ciw3eM Ciw3hB Ciw3gg Ciw3eG Ciw3iB Ciw3gP Ciw3gi Ciw3eI Ciw3hh Ciw3gV Ciw3f7 Ciw3g8 Ciw3fn Ciw3eD Ciw3hI Ciw3j6 Ciw3ew Ciw3ex Ciw3gT Ciw3e8 Ciw3gZ Ciw3hc Ciw3hK Ciw3gw Ciw3gs Ce43oIeI Ce43oIhh !1d6a8 CP5i9 CP5ol CP5n& CP5oU CP5l2 CP5rd CP5jL CP5nV CP5jW CP5p9 CP5qs CP5ks CP5lw CP5qd CP5mI CP5jh CP5mj CP5nVB CP5nF CP5pJ CP5k4 CP5nS CP5n3 CP5pa CP5i4 CPy1O CP3i9 CP3ol CP3n& CP3oU CP3l2 CP3rd CP3jL CP3nV CP3jW CP3p9 CP3qs CP3ks CP3lw CP3qd CP3mI CP3jh CP3mj CP3eAnF CP3nF CP3pJ CP3k4 CP3nS CP3n3 CP3pa CP3i4 CPy1Zy0S CPl2B CPnVB CPp9B CPnSB CPmjB CPjhB Ce45i9 Ce45ol Ce45n& Ce45oU Ce45l2 Ce45rd Ce45jL Ce45nV Ce45jW Ce45p9 Ce45qs Ce45ks Ce45lw Ce45qd Ce45mI Ce45jh Ce45mj Ce45nVB Ce45nF Ce45pJ Ce45k4 Ce45nS Ce45n3 Ce45pa Ce45i4 Ce4y1O Ce43i9 Ce43ol Ce43n& Ce43oU Ce43l2 Ce43rd Ce43jL Ce43nV Ce43jW Ce43p9 Ce43qs Ce43ks Ce43lw Ce43qd Ce43mI Ce43jh Ce43mj Ce43eAnF Ce43nF Ce43pJ Ce43k4 Ce43nS Ce43n3 Ce43pa Ce43i4 Ce4y1Zy0S " ++
  "Ce4l2B Ce4nVB Ce4p9B Ce4nSB Ce4mjB Ce4jhB CPe45i9 CPe45ol CPe45n& CPe45oU CPe45l2 CPe45rd CPe45jL CPe45nV CPe45jW CPe45p9 CPe45qs CPe45ks CPe45lw CPe45qd CPe45mI CPe45jh CPe45mj CPe45nVB CPe45nF CPe45pJ CPe45k4 CPe45nS CPe45n3 CPe45pa CPe45i4 CPe4y1O CPe43i9 CPe43ol CPe43n& CPe43oU CPe43l2 CPe43rd CPe43jL CPe43nV CPe43jW CPe43p9 CPe43qs CPe43ks CPe43lw CPe43qd CPe43mI CPe43jh CPe43mj CPe43eAnF CPe43nF CPe43pJ CPe43k4 CPe43nS CPe43n3 CPe43pa CPe43i4 CPe4y1Zy0S CPe4l2B CPe4nVB CPe4p9B CPe4nSB CPe4mjB CPe4jhB Ce7P5i9 Ce7P5ol Ce7P5n& Ce7P5oU Ce7P5l2 Ce7P5rd Ce7P5jL Ce7P5nV Ce7P5jW Ce7P5p9 Ce7P5qs Ce7P5ks Ce7P5lw Ce7P5qd Ce7P5mI Ce7P5jh Ce7P5mj Ce7P5nVB Ce7P5nF Ce7P5pJ Ce7P5k4 Ce7P5nS Ce7P5n3 Ce7P5pa Ce7P5i4 Ce7Py1O Ce7P3i9 Ce7P3ol Ce7P3n& Ce7P3oU Ce7P3l2 Ce7P3rd Ce7P3jL Ce7P3nV Ce7P3jW Ce7P3p9 Ce7P3qs Ce7P3ks Ce7P3lw Ce7P3qd Ce7P3mI Ce7P3jh Ce7P3mj Ce7P3eAnF Ce7P3nF Ce7P3pJ Ce7P3k4 Ce7P3nS Ce7P3n3 Ce7P3pa Ce7P3i4 Ce7Py1Zy0S Ce7Pl2B Ce7PnVB Ce7Pp9B Ce7PnSB Ce7PmjB Ce7PjhB Ce7Pe45i9 Ce7Pe45ol Ce7Pe45n& Ce7Pe45oU Ce7Pe45l2 Ce7Pe45rd Ce7Pe45jL Ce7Pe45nV Ce7Pe45jW Ce7Pe45p9 Ce7Pe45qs Ce7Pe45ks Ce7Pe45lw Ce7Pe45qd Ce7Pe45mI Ce7Pe45jh Ce7Pe45mj Ce7Pe45nVB Ce7Pe45nF Ce7Pe45pJ Ce7Pe45k4 Ce7Pe45nS Ce7Pe45n3 Ce7Pe45pa Ce7Pe45i4 Ce7Pe4y1O Ce7Pe43i9 Ce7Pe43ol Ce7Pe43n& Ce7Pe43oU Ce7Pe43l2 Ce7Pe43rd Ce7Pe43jL Ce7Pe43nV Ce7Pe43jW Ce7Pe43p9 Ce7Pe43qs Ce7Pe43ks Ce7Pe43lw Ce7Pe43qd Ce7Pe43mI Ce7Pe43jh Ce7Pe43mj Ce7Pe43eAnF Ce7Pe43nF Ce7Pe43pJ Ce7Pe43k4 Ce7Pe43nS Ce7Pe43n3 Ce7Pe43pa Ce7Pe43i4 Ce7Pe4y1Zy0S Ce7Pe4l2B Ce7Pe4nVB Ce7Pe4p9B Ce7Pe4nSB Ce7Pe4mjB Ce7Pe4jhB CP5y0T CP3y0T !1d7ce CPEgx CPEe9 CPEeE CPEeP CPEec CPEej CPEfD CPEfO CPEfC CPEfW CghEgx CghEe9 CghEeE CghEeP CghEec CghEej CghEfD CghEfO CghEfC CghEfW Ce7Egx Ce7Ee9 Ce7EeE Ce7EeP Ce7Eec Ce7Eej Ce7EfD Ce7EfO Ce7EfC Ce7EfW Ce7PEgx Ce7PEe9 Ce7PEeE Ce7PEeP Ce7PEec Ce7PEej Ce7PEfD Ce7PEfO Ce7PEfC Ce7PEfW CiwEgx CiwEe9 CiwEeE CiwEeP CiwEec CiwEej CiwEfD CiwEfO CiwEfC CiwEfW Lfmf2 LpUf2 LqFf2 LvXf2 Lm5f2 Lp7f2 Lfmf2mD LpUf2mD " ++
  "Lfmfetzf2mD Lfmf2lfy7h Lfmf2y0Q Lfmf2oW Lfmf2oWfV LpUf2ySr Lfmf2ea LpUf2ea Lfmf2eamD Lfmf2ealfyEG Lfmf2eaoW Lfmf2eveaoW Lfmf2oWeaev Lfmf2eamO Lfmf2eamOf2mD Lfmf2eamOeamD Lfmf2eamOy0Q Lfmf2eamOoW Lfmf2earA LpUf2earA LfmeamDfgf2 Lfmf2mDfgea Lfmf2eafe LpUf2eafe Lfmf2ealRfemD Lfmf2eamDfelR Lfmf2eafemD Lfmf2eaoWp&felQ Lfmf2eveaoWfelQ Lfmf2eveaoWfemO Lfmf2oWeaevfelQ Lfmf2eaevp&fep3 Lfmf2eafey0Q Lfmf2eafee5 Lfmf2eafey0w Lfmf2eafeoW Lfmfen1f2ealR Lfmf2eamOfelQ Lfmf2eamOfelQmO Lfmf2eamOfelQmD Lfmeafey0wf2ev Lfmf2fey0weaev Lfmf2eamOoWfelQ Lfmf2earAfelQ Lfmf2eamOfep3 Lfmf2eamOy0Qfep3 Lfmeafey0Qf2ev Lfmf2fey0Qeaev Lfmeafee5f2ev Lfmeafee5f2oW Lfmf2fewhpseaev Lfmf2fewhiteaev Lfmf2fee5eaev Lfmf2eafemOoW Lfmf2eafewhps Lfmf2eafewh Lfmeafewhpsf2ev Lfmeafewhpsf2rA Lfmeafewhf2ev Lfmf2fey0weaoW Lmsecm3 Lmsecm3mD Lmsecm3oW Lmsecm3mO Lmsecm3mOy1u LvWecm3mO Lfmecm3mOmD Lm5ecm3mO Lmsejm3p& Lmsx9ejm3p& Lmsejm3p&ecmD Lmsx9ejm3p&ecmD Lmsejm3p&mD Lmsx9ejm3p&mD Lmsejm3p&fep3 LqFejm3p& LqFejm3p&g9 Lm5ejm3p&g9 LvXejm3p& Lmsejm3p&oW Lmsejm3p&oWfelQ Lmsejm3p&oWkufe Lms Lmsn1y1YzWc Lmsx9 LmsfelQ Lmsx9felQ LmsfemD Lmsfep3 Lmsy1uf2felQ Lmsy1uie Lmsy1uiefelQ Lmsy1uiefelQmD Lmsy1uiH LvW LvWfelQ LvWkufe LvWfep3 LtUyPG LtU LqFg9 LqF LqFg9felQ LqFfelQ LqFg9kufe LqFkufe LqFg9fep3 LqFfep3 Ly79g9 Ly79 LpU LvX LvXfelQ LvXkufe LvXfep3 Lm5g9 Lm5g9fep3 Lm5 Lm53 Lm5g9felQ Lm5felQ Lm5g9kufe Lm5kufe Lm5felQyeVf2 Lm5fen1eaft Lp7 Lfmf2eaft LpUf2eaft Lm5f2eaft Lp7f2eaft Lm5iH Lfmf2eaftmD Lfmf2eaftmO Lm5f2eaftmO LfmiHfB LfmiHfByb4lR LfmiHfByb4oT LfmiHfB#B7e5 LfmiHev LfmfetziHev LpUiHev LvXiHev Lp7iHev LfmiHlfy7h LfmiHmD LfmiH#eCfe LfmiHfe Lm5iHfe LfmiHf2fe Lm5iHf2fe Lp7iHf2fef2feps Lp7iHf2fef2fe LfmiHf2 LpUiHf2 Lm5iHf2 Lp7iHf2 Lfmf2eaiH LpUf2eaiH Lm5f2eaiH Lm5ft Lp7f2eaiH Lfmf2eajfiH LpUf2eajfiH LfmftfB Lm5ftfBf2feegea Lp7ftfBeafef2jf Lfmftev Lfmftlfy7h LfmftiH LpUftiH LvXftiH Lp7ftiH Lfmftea LfmfteamO LfmftealfyEG Lfmftf2 Lfmftfe LtUftfe Lfmf2ftiH LpUf2ftiH Ly79f2ftiHia LtUf2ftiHps LtUf2ftiHit LtUf2ftiHtz LqFf2ftiH " ++
  "Lm5f2ftiH Lp7f2ftiHps Lp7f2ftiH LfmeafB Lm5ea Lfmeaev LpUeaev Lfmealfy7h LfmeaevfelQ LtUeafe LfmeafeiH LfmeaiH LfmeaftiH LpUeaftiH Ly79eaftiHia LqFeaftiH Lm5eaftiH Lp7eaftiHps Lp7eaftiHit Lp7eaftiH LpUeaftiHmD LvWeaftiHmO LvWeaftiHmOlQ LtUeaftiHmOps LtUeaftiHmOit LtUeaftiHmO Lm5f2oW Lfmf2felQ Lm5f2felQ Lfmf2felQfegJ Lfmf2felQfemO Lfmf2felQfemD Lfmf2felQf2mD Lfmf2felQyODmD Lfmf2felQf2ySr Lfmf2fep3f2lR Lfmf2fep3f2mD Lfmf2feeg Lfmf2feyPG Lfmf2fek&feor LvWf2fek&feor Lfmf2fek&fetz Lfmf2fefG LqFf2fe LqFf2feg9 Lm5f2feg9 Lm5f2fegv Lm5f2fe Lm5f2fe3 Lp7f2feps Lp7f2feit Lp7f2fe Lfmfe Lfmfex9 LfmfelQgJ LfmfelQmO LfmfelQmD Lfmfep3 Lfmfen1f2ea Lfmfen1eaft Lfmfen1ftiH LfmfetzeEm3 LfmfefgeEm3 LfmfetzePm3 Lfmfetzecm3 LfmfefgeclfyEG Lfm Lfmx9 LyIkha LyIkrL LyIkn1 LyDOha LyDOrL LyDOn1 LyI1ha LyI1rL LyI1n1 Ly0Hha Ly0HrL Ly0Hn1 Ly9Qha Ly9QrL Ly9Qn1 LyI8yID LyI8n1 Ly1vgvha Ly1v3ha Ly1vgvrL Ly1v3rL Ly1vy9Y Ly0kgvha Ly0k3ha Ly0kgvrL Ly0k3rL Ly0ky9Y Ly1vy0knl LxMevfBgv LxMevfB3 LxMevy9Y LxMfBy9Y LxMevfBnlgv LxMevfBnl3 LxMlQeQlQy1n LhNtOy0L LhrtOy0L LhNhalR3 LhNhalRgF LhNhalRgv LhNhalRub LhNhar2tQ LhNeBlR LhNeBr2tQ LhNeBnl LhNeBnlr2tQ LhNjf LhNj8lRvs LhNj8r2tQ LhNj8nl LhNj8nlr2tQ LhNy0A3 LhNy0AgF LhNy0Agv LhNlD3 LhNlDgF LhNlDgv LhNlDpv LhNqj3 LhNqjgF LhNqjgv LhNey3 LhNeygF LhNeygv LhNsM3 LhNsMgF LhNsMgv LhNy1a3 LhNy1agF LhNy1agv LtwqUha LtwqUeB LtwqUnl LtwqTha LtwqTeB LtwqTnl Ltwy9b Ltwnwxfha LtwnwxfeB Ltwnwxfj8 Lprv73 Lprv7gF Lprv7gv Lprv7ub LprwW3 LprwWgF LprwWgv LprwWub Lprn1v73 Lprn1v7gF Lprn1v7gv Lprn1v7ub Lprn1wW3 Lprn1wWgF Lprn1wWgv Lprn1wWub LhrhalR3 LhrhalRgF LhrhalRgv LhrhalRub Lhrhar2tQ LhreBlR LhreBr2tQ LhreBnl LhreBnlr2tQ Lhrjf Lhrj8lRvs Lhrj8r2tQ Lhrj8nlvs Lhrj8nlr2tQ Lhry0A LhrlD3 LhrlDgF LhrlDgv Lhrqj Lhrey3 LhreygF Lhreygv LhrsM3 LhrsMgF LhrsMgv Lhry1a3 Lhry1agF Lhry1agv LxuqTha LxuqTeB LxuqTnl LxuqUha LxuqUeB LxuqUnl Lxuy9b LhNk&l63 LhNk&l6gF LhNk&l6gv LhNk&l6ub LhNk&y3P3 LhNk&y3PgF LhNk&y3Pgv LhNk&y3Pub LhNk&ye9fG3 LhNk&ye9fGgF LhNqq3 LhNqqgF LhNqqgv LhNmv3 LhNmvgF LhNmvgv " ++
  "LhNmv3eB LhNlnk&eB3 LhNlnk&eBgF LhNlnk&eBgv LhNlnk&j83 LhNlnk&j8gF LhNlnk&j8gv LhNk&uulR LhNoTjf3 LhNoTjfgF LqUha LqUeB LqUkm LhNy9b LhNk&jVuPpK LhNqqjVuPpK LhNmvjVuPpK LhNlnjVuPpK LqUhajVuPpK LqUeBjVuPpK LqUnljVuPpK LhNk&jVwn LhNqqjVwn LhNmvjVwn LhNlnjVwn LqUhajVwn LqUeBjVwn LqUnljVwn LhNlngJy4Q3 LhNlngJy4QgF LhNlngJy4Qgv Lhrk&jVpP3 Lhrk&jVpPgv LhrqqjVpP3eB LhrqqjVpPgveB LhrqqjVpP3j8 LhrqqjVpPgvj8 LhrmvjVpP3ha LhrmvjVpPgvha LhrmvjVpP3eB LhrmvjVpPgveB LhrlnjVpP3 LhrlnjVpPgv LqThajVpP LqTeBjVpP LqTnljVpP Lhrk&jVp23 Lhrk&jVp2gv LhrqqjVp23eB LhrqqjVp2gveB LhrqqjVp2j83j8 LhrqqjVp2j8gvj8 LhrmvjVp23ha LhrmvjVp2gvha LhrmvjVp23eB LhrmvjVp2gveB LhrlnjVp23 LhrlnjVp2gv LqThajVp2 LqTeBjVp2 LqTnljVp2 Lhrk&3 Lhrk&gF Lhrk&gv Lhrk&ub Lhrk&z6E Lhrqq3 Lhrmv3 Lhrlny9q Lhrln3 Lhrlngv LqTha LqTeB LqTnl Lhry9bth LhNnwfG3ha LhNnwfGgFha LhNnwfG3eB LhNnwfGgFeB LhrnwfGjVpK3ha LhrnwfGjVpKgFha LhrnwfGjVpKgvha LhrnwfGjVpK3eB LhrnwfGjVpKgFeB LhrnwfGjVpKgveB LhNr2fGuPha LhNr2fGuPeB Lhrr2fGjVpKha Lhrr2fGjVpKeB LhNtOpQha LhNtOpQeB LhrtOpQjVpKha LhrtOpQjVpKeB LtIht3 LtIhtgv LtIzWs LtIycV LtIxp LtIyak LtIycF LtIycFnl LtIzV8#B6yIb LtIzb# Lmg Lmg#K6 LmghNlR LmghN#dL LmghrlR LmghNk& Lmghrk& LmgvsfG Lf0y6Py1dskp3yAA Lf0y6Py1dskevgrfB Lf0y6Py1dskevgrfByAA LwylRev LwylRkb LwylRfB Ly6VwykbfB Ly6VwyfBkb Ly6Vwyevkb Ly6Vwykbev LyD3kb LyD3y0L LyD3xz Ln5g9 Ln5#Wt Ln5kQ LtNyNxha LtNyNxrL Ln5f6g9 Ln5sIg9 Ln5f6kQ Ln5#nnvs LtN#nu LyCoev LyCofB LyCoyRS Ly33lR Ly33lReB Ly33lRnl Ly6llR Ly6llReB Ly6llRnl Ly33oT Ly6loT Ly33yOw Ly0K#Fq Ly0Kkb Ly0Kyd7 Lxpy0Kfc Lxpy0Kea Lxpy0KfV LyQd Lskkb Lsky0L LskyJK Lsk#no Ly01yO4ps Ly01#Ynit Ly01y&a3ybC Ly01#Ym3ybC LyBQzkc LyBQzVD LjzkQkb LjzkQp3 LjzkQy0L Ljzy4w Ljzy4wxz Ljzy4wg9 Ljzy6y Ljzy6yxz Ljzy6yg9 Ljzg9fG Ljzg9p3 Ljzg9xz Ljzg9y4K Ljzg9y4Kxz Ljzg9y4KygN Ljzg9uj Ljzg9ujxz Ljzg9ujygN Ljzy1A Ljzy1Ap3 Ljzy1Axz Ljzxp Ljzxpp3 Ljzxpyd7 Lvj#FLyAB Ly7zf3fgfA Ly7zfAfgf3 Ljzy0O LjzyJKha LjzyJKeB Lpfyd0pszWr LpfztBvj LpfoPn1vj LpfoPyeVorjz Lpforjzyak Lpfz&tytGz2t Lpfieyd0ps Lpfieorjz Lxo " ++
  "Lxovs Lxoiapf Lxoiapfvs Lxoiavj Lxoiavjvs Lxoy&Svj LhNyTf LhryTf LyXY Lx7 LzVC Ly4ty0u#Wc Ly4ty0u#Ez L#n8y4ty0uyX7 LzXoy4ty0uyX7 Ly4tyAAlM#n7 LyeSlR#Y8 LyeSoTy0A L#eA#gM LfAyO7yAAlMy0uzm1 Lviz6D Lvizsk Lvizsl Lvizsm Lvizsn Lvizso Lvizsp Lvizsq LtO Lztuo9 Lztto9 Lvkze2 Lvks& LvkzMY LvkmgyXY Lvk#e9 LvkztOzNG Li& Ljgi1 LsA Llp LkF !1da9b Lp1yWx Lp1yWy Lp1yWz Lp1yW# Lp1yW& !1daa1 LpvyWx LpvyWy LpvyWz LpvyW# LpvyW& Lpvz&P Lpvz&Q Lpvz&R Lpvz&I Lpvz&J Lpvz&K Lpvz&L Lpvz&M Lpvz&N Lpvz&O !1df00 730yCtm02#eb 730hGfrgP 7035fugP 730hGgV 7035f72sP 730y7y2kdeg 730fugw2sP 730hGrr 730fuew2g2oZOkdeg 730gT2egOkdeg 70kdsS2kdeg 730oq2eBfF 730oq2eBfFOny 730fugT2ny 70idlUi12ny 70nUhB2ny 7035fugV 730f72vS 730y6Lm02mWeg 730f72sPOmWeg 730rr2mWeg 730fuew2mWeg 730ew2vSOmWeg 730yA5m02mWeg 730rs2mWeg 730y6Lm02kdeg 730eI2eWOkdeg 730eD2kdeg 730yA5m02kdeg 730hB2kdeg 730ex2ny !1e000 Vfa0yB7 Vfa0yBU Vfa0yJ5 Vfa0yDM Vfa0yCX Vfa0yJW Vfa0yJf !1e008 Vfa0yJd Vfa0y11 Vfa0ely11 Vfa0eI Vfa0yCV Vfa0yE1 Vfa0yEe Vfa0y41 Vfa0yFN Vfa0yFx Vfa0yGS Vfa0yH0 Vfa0yHg Vfa0yIw Vfa0yJ1 Vfa0yD6 Vfa0yDW !1e01b Vfa0yHT Vfa0xv Vfa0y2j Vfa0i0 Vfa0t2 Vfa0yAg Vfa0yJR !1e023 Vfa0k# Vfa03mC !1e026 Vfa0l# Vfa0y0&3mC Vfa0q7mC Vfa0y0&q7mC Vfa0x0 !1e100 iIiJen0g0 iIiJen0mM iIiJen0#6& iIiJen0gC iIiJen0fQ iIiJen0g5 iIiJen0qc iIiJen0#5J iIiJen0i3 iIiJen0g1 iIiJen0gG iIiJen0jt iIiJen0#2O iIiJen0#75 iIiJen0eo iIiJen0gN iIiJen0ih iIiJen0yFk iIiJen0jT iIiJen0#7A iIiJen0#gQ iIiJen0kh iIiJen0fq iIiJen0od iIiJen0gB iIiJen0#6M iIiJen0fl iIiJen0ygE iIiJen0#6K iIiJen0y6R iIiJen0#6L iIiJen0fz iIiJen0yWw iIiJen0y8v iIiJen0gR iIiJen0oe iIiJen0K iIiJen0h5 iIiJen0eI iIiJen0e8 iIiJen0eD iIiJen0k2 iIiJen0eG iIiJen0ka iIiJen0hc !1e130 iIiJen#dy iIiJen#e0 iIiJen#d& iIiJen#e2 iIiJen#e1 iIiJen#d# iIiJen#dz iIiJen1e0o7 iIiJen1e0#cZ iIiJen1e0vk iIiJen1e0yuQ iIiJen1e0zko iIiJen1yJNyJN iIiJen4y7x !1e140 iIiJenEgx iIiJenEe9 iIiJenEeE iIiJenEeP iIiJenEec iIiJenEej iIiJenEfD iIiJenEfO iIiJenEfC iIiJenEfW !1e14e iIiJenvl#7w iIiJene5i3 !1e290 m80fl m80gu m80gC m80gN " ++
  "m80eo m80gR m80g0 m80g5 m80hv m80gG m80ic m80gB m80i7 m80hz m80fQ m80fq m80g1 m80eI m80y2eeI m80y3Z m80y2ey3Z m80e8 m80eG m80y2eeG m80y31 m80y2ey31 m80eD m80lj m80y2elj m80K m81qRfX !1e2c0 jB0h5 jB0K jB0gu jB0i3 jB0gN jB0gR jB0gB jB0jS jB0g1 jB0g5 jB0fl jB0gC jB0j2 jB0kh jB0gG jB0i0 jB0hz jB0jt jB0i7 jB0jT jB0eo jB0eD jB0hw jB0fq jB0g0 jB0if jB0fQ jB0eG jB0eI jB0hv jB0e8 jB0ztn jB0mM jB0yIl jB0yYl jB0yrH jB0r6 jB0yDl jB0ia jB0jK jB0yML jB0ih jB0#hs jB0#qj jBfXyf3 jBfX#g2 jBfXyEH jBfXzpX jBEgx jBEe9 jBEeE jBEeP jBEec jBEej jBEfD jBEfO jBEfC jBEfW !1e2ff jB#471 !1e7e0 Y4zeR Y4zeX Y4zeV Y4zeS Y4zeU Y4zeT Y4zeW !1e7e8 Y4p6ySm Y4zeQ Y4zeP Y4zeO !1e7ed Y4p6y8K Y4p6yXE !1e7f0 Y4p6yaS Y4p6yaR Y4p6yaQ Y4p6yOP Y4p6yOO Y4p6y7p Y4p6yUe Y4p6y7o Y4p6ySV Y4p6ySU Y4p6yST Y4p6yRk Y4p6yRj Y4p6y91 Y4p6yaB !1e800 efee4yVcne efee4yVdeo efee4yVeo2 efee4zvRyE8 efee4zvvoK efee4zvcy3k efee4zvAnO efee4zxDzq8 efee4yVfoC efee4yVgi7 efee4yVht1 efee4zwOyAY efee4zwGnL efee4zwCy5P efee4zv7nk efee4zxS#oP efee4zwfyf& efee4zvN#oX efee4zvB#oV efee4zwb#oW efee4yViy8E efee4yVjo5 efee4yVk#0H efee4zvLsj efee4zvurK efee4zwqyXA efee4zxN#08 efee4yVlom efee4yVmgu efee4yVnn2 efee4zwmy09 efee4zvxq6 efee4zw1yO9 efee4zwark efee4yVoeI efee4yVpK efee4yVqe8 efee4zwzka efee4zv#eG efee4zw&k2 efee4zwjeD efee4zwZuI efee4zwTit efee4zwXit efee4zxTlB efee4zxCjK efee4yVunr efee4yVvgG efee4yVwoA efee4zwyxX efee4zwEo8 efee4zwYy4x efee4zvfnG efee4zxU#Ux efee4yV#ij efee4yV&g1 efee4yW0nA efee4zvky7u efee4zvZjx efee4zvGy1I efee4zwpoa efee4zw8g2jx efee4yVroo efee4yVsgN efee4yVtop efee4zvpy0R efee4zxEyQF efee4zxFoV efee4yVxow efee4yVygC efee4yVznW efee4zvry21 efee4zvHlI efee4zw2y25 efee4zvVeQ efee4yW1vc efee4yW2hz efee4yW3xB efee4zwty13 efee4zwBrx efee4zwwyTp efee4zvPsb efee4zx9g2sb efee4yW49 efee4yW5gB efee4yW6k# efee4zw7y2L efee4zvgq3 efee4zwdyAi efee4zwJl# efee4yW7sV efee4yW8kh efee4yW9uQ efee4zvew& efee4zvbrt efee4zwVyD2 efee4zvosY efee4zxVzYN efee4zv&yRG efee4yWAyFf efee4yWB#1k efee4yWCj9 efee4zwFyFU efee4zx3#64 efee4zxAlE " ++
  "efee4yWEfQ efee4zxKqp efee4yWDy7C efee4zvwki efee4yWFy3S efee4zwcmt efee4zvjze1 efee4zwQzgY efee4zvFySq efee4zwSySY efee4zvnyT5 efee4zvEySh efee4zxRyDb efee4zv8zhX efee4zvqyXl efee4yWGy48 efee4zviyFa efee4zwDyXj efee4zwiyFW efee4zwsyFZ efee4zwIyFY efee4zwv#3Q efee4zwP#3Y efee4zvmg2yFW efee4zw4g2yFZ efee4zxHg2yFY efee4zwrnc efee4zw9gR efee4zx2pS efee4zxOy3F efee4zx0zcI efee4zx1zcE efee4zxIyXh efee4zvJyXr efee4zxB#45 efee4zvUjh efee4zvzfl efee4zvCrU efee4zvhug efee4zvDk9 efee4zw0y4a efee4zvSpD efee4zwhyEs efee4zvOy3w efee4zwKyEw efee4zv9y87 efee4zxMy87 efee4zvYy86 efee4zx6yEv efee4zx8yEu efee4zxLzz3 efee4zwxg2y86 efee4zw3g2yEv efee4zweg2yEu efee4zwUyUX efee4zvsy3m efee4zvayUZ efee4yWHyUW efee4zw6yUV efee4zwAyUY efee4zwuy7i efee4zwMyRu efee4zvIyDC efee4zwkyDD efee4zvtyRt efee4zw5y6& efee4zvXyRw efee4zvWyRv efee4zx5fq efee4zwLyFR efee4zwRy1Q efee4zwNy8N efee4zxPyFQ efee4zwHy8M efee4zvTyXW efee4zvQyFS efee4zwoyXz efee4zxQyFh efee4zwly4A efee4zwWyY2 efee4zxGu# efee4zxJjT efee4zwnxx efee4zx7wb efee4zvlph efee4zwgyfn efee4zvdt# efee4zw##83 efee4zvK#7x efee4zx4#8E efee4zvy#7# efee4zvM#89 !1e8c7 efeeEe9 efeeEeE efeeEeP efeeEec efeeEej efeeEfD efeeEfO efeeEfC efeeEfW efeeVT#bw efeeVTsx efeeVTyDd efeeVTwU efeeVThUwU efeeVTfUwU efeeVTxK !1e900 h850yAu h850yPQ h850yEP h850yWt h850gu h850ycH h850k9 h850y5s h850fq h850eG h850kh h850eI h850eD h850k1 h850ygU h850kf h850j9 h850jr h850gB h850e8 h850yTh h850n3 h850fQ h850yGn h850gR h850ih h850nW h850y1S h850jT h850if h850y6& h850yAm h850y7i h850i0 h830yAu h830yPQ h830yEP h830yWt h830gu h830ycH h830k9 h830y5s h830fq h830eG h830kh h830eI h830eD h830k1 h830ygU h830kf h830j9 h830jr h830gB h830e8 h830yTh h830n3 h830fQ h830yGn h830gR h830ih h830nW h830y1S h830jT h830if h830y6& h830yAm h830y7i h830i0 h8yAuy7x h8Gy7x h8y3Ge2 h8hf h8h9eL h8zaFh9eL h8nR h8yFMe2 !1e950 h8Egx h8Ee9 h8EeE h8EeP h8Eec h8Eej h8EfD h8EfO h8EfC h8EfW !1e95e h8eln4e2 h8elmZe2 !1ec71 hnfhTe9 hnfhTeE hnfhTeP hnfhTec hnfhTej hnfhTfD hnfhTfO hnfhTfC hnfhTfW hnfhThU hnfhTj& " ++
  "hnfhTmL hnfhTmq hnfhTlT hnfhTpc hnfhTlh hnfhTqB hnfhTl5 hnfhTe9fU hnfhTeEfU hnfhTePfU hnfhTecfU hnfhTejfU hnfhTfDfU hnfhTfOfU hnfhTfCfU hnfhTfWfU hnfhTe9g3 hnfhTeEg3 hnfhTePg3 hnfhTecg3 hnfhTejg3 hnfhTfDg3 hnfhTfOg3 hnfhTfCg3 hnfhTfWg3 hnfhThUg3 hnfhTj&g3 hnfhTmLg3 hnfhTmqg3 hnfhTlTg3 hnfhTpcg3 hnfhTlhg3 hnfhTqBg3 hnfhTl5g3 hnfhTyEQ hnfhTzs7 hnfhyEQe2 hnfhTznI hnfhTznJ hnfhTtie9 hnfhTtieE hnfhTtieP hnfhTtiec hnfhTtiej hnfhTtifD hnfhTtifO hnfhTtifC hnfhTtifW hnfhyGQ hnfhgae9l6 hnfhgae9f6 hnfhgaePqQ hnfhw9e2 hnfhTkme9 hnfhTkmeE hnfhTkmhUg3 hnfhkmyEQe2 !1ed01 j0fhTe9 j0fhTeE j0fhTeP j0fhTec j0fhTej j0fhTfD j0fhTfO j0fhTfC j0fhTfW j0fhThU j0fhTj& j0fhTmL j0fhTmq j0fhTlT j0fhTpc j0fhTlh j0fhTqB j0fhTl5 j0fhTe9fU j0fhTeEfU j0fhTePfU j0fhTecfU j0fhTejfU j0fhTfDfU j0fhTfOfU j0fhTfCfU j0fhTfWfU j0fhTe9g3 j0fhTeEg3 j0fhTePg3 j0fhTecg3 j0fhTejg3 j0fhTfDg3 j0fhTfOg3 j0fhTfCg3 j0fhTfWg3 j0fhThUg3 j0fhTj&g3 j0fhTmLg3 j0fhTmqg3 j0fhTlTg3 j0fhTpcg3 j0fhTlhg3 j0fhTqBg3 j0fhTl5g3 j0fhzyS j0fhkmTeE j0fhkmTeP j0fhkmTec j0fhkmTej j0fhkmTfD j0fhkmTfO j0fhkmTfC j0fhkmTfW j0fhkmThU j0fhkmTecfU j0fhkmTfDfU j0fhkmTeEg3 j0fhkmThUg3 j0fhgae9f6 j0fhgae9yHb !1ee00 8CfE 8CkK 8CgQ 8Con !1ee05 8Ckf 8Cq4 8Cfz 8Ckz 8Ceq 8Cjr 8Ch# 8Cem 8CiZ 8Cjn 8CkJ 8Cl3 8Clg 8ClP 8Cl7 8CkT 8Cje 8Cnj 8CiU 8CwQ 8Clr 8Cr4 8Cn6 8CoIkK 8CoIiZ 8CoIl3 8CoIlP !1ee21 8CelkK 8CelgQ !1ee24 8Celjw !1ee27 8Celfz !1ee29 8Celeq 8Celjr 8Celh# 8Celem 8CeliZ 8Celjn 8CelkJ 8Cell3 8Cellg 8CellP !1ee34 8CelkT 8Celje 8Celnj 8CeliU !1ee39 8Cellr !1ee3b 8Celn6 !1ee42 8Cq1gQ !1ee47 8Cq1fz !1ee49 8Cq1eq !1ee4b 8Cq1h# !1ee4d 8Cq1iZ 8Cq1jn 8Cq1kJ !1ee51 8Cq1lg 8Cq1lP !1ee54 8Cq1kT !1ee57 8Cq1iU !1ee59 8Cq1lr !1ee5b 8Cq1n6 !1ee5d 8Cq1oIiZ !1ee5f 8Cq1oIlP !1ee61 8CnUkK 8CnUgQ !1ee64 8CnUjw !1ee67 8CnUfz 8CnUkz 8CnUeq 8CnUjr !1ee6c 8CnUem 8CnUiZ 8CnUjn 8CnUkJ 8CnUl3 8CnUlg 8CnUlP !1ee74 8CnUkT 8CnUje 8CnUnj 8CnUiU !1ee79 8CnUlr 8CnUr4 8CnUn6 8CnUoIkK !1ee7e 8CnUoIl3 !1ee80 8CmwfE 8CmwkK 8CmwgQ 8Cmwon 8Cmwjw 8Cmwkf 8Cmwq4 8Cmwfz 8Cmwkz 8Cmweq " ++
  "!1ee8b 8Cmwh# 8Cmwem 8CmwiZ 8Cmwjn 8CmwkJ 8Cmwl3 8Cmwlg 8CmwlP 8Cmwl7 8CmwkT 8Cmwje 8Cmwnj 8CmwiU 8CmwwQ 8Cmwlr 8Cmwr4 8Cmwn6 !1eea1 8CghkK 8CghgQ 8Cghon !1eea5 8Cghkf 8Cghq4 8Cghfz 8Cghkz 8Cgheq !1eeab 8Cghh# 8Cghem 8CghiZ 8Cghjn 8CghkJ 8Cghl3 8Cghlg 8CghlP 8Cghl7 8CghkT 8Cghje 8Cghnj 8CghiU 8CghwQ 8Cghlr 8Cghr4 8Cghn6 !1eef0 8Ck8em2fz2y20 8Ck8fz2on !1f000 kRfLirt0 kRfLhAt0 kRfLjUt0 kRfLgKt0 kRfLouvL kRfLvVvL kRfLeNvL kRfLe9eYuA kRfLeEeYuA kRfLePeYuA kRfLeceYuA kRfLejeYuA kRfLfDeYuA kRfLfOeYuA kRfLfCeYuA kRfLfWeYuA kRfLe9eYu4 kRfLeEeYu4 kRfLePeYu4 kRfLeceYu4 kRfLejeYu4 kRfLfDeYu4 kRfLfOeYu4 kRfLfCeYu4 kRfLfWeYu4 kRfLe9eYpQ kRfLeEeYpQ kRfLePeYpQ kRfLeceYpQ kRfLejeYpQ kRfLfDeYpQ kRfLfOeYpQ kRfLfCeYpQ kRfLfWeYpQ kRfL#EY kRfL#A# kRfLyBC kRfLz3a kRfL#Wn kRfL#Ys kRfLyw6 kRfL#nv kRfLy7V kRfLrh !1f030 gUfLg4rh gUfLzga gUfLzgb gUfLzgc gUfLzgd gUfLzge gUfLzgf gUfLzgg gUfLzgh gUfLzgi gUfLzgj gUfLzgk gUfLzgl gUfLzgm gUfLzgn gUfLzgo gUfLzgp gUfLzgq gUfLzgr gUfLzgs gUfLzgt gUfLzgu gUfLzgv gUfLzgw gUfLzgx gUfLzgy gUfLzgz gUfLzg# gUfLzg& gUfLzh0 gUfLzh1 gUfLzh2 gUfLzh3 gUfLzh4 gUfLzh5 gUfLzh6 gUfLzh7 gUfLzh8 gUfLzh9 gUfLzhA gUfLzhB gUfLzhC gUfLzhD gUfLzhE gUfLzhF gUfLzhG gUfLzhH gUfLzhI gUfLzhJ gUfLzhK gUfLehrh gUfL#kV gUfL#kW gUfL#kX gUfL#kY gUfL#kZ gUfL#ka gUfL#kb gUfL#kc gUfL#kd gUfL#ke gUfL#kf gUfL#kg gUfL#kh gUfL#ki gUfL#kj gUfL#kk gUfL#kl gUfL#km gUfL#kn gUfL#ko gUfL#kp gUfL#kq gUfL#kr gUfL#ks gUfL#kt gUfL#ku gUfL#kv gUfL#kw gUfL#kx gUfL#ky gUfL#kz gUfL#k# gUfL#k& gUfL#l0 gUfL#l1 gUfL#l2 gUfL#l3 gUfL#l4 gUfL#l5 gUfL#l6 gUfL#l7 gUfL#l8 gUfL#l9 gUfL#lA gUfL#lB gUfL#lC gUfL#lD gUfL#lE gUfL#lF !1f0a0 hShCrh hShCy5ZeYq# hShCeEeYq# hShCePeYq# hShCeceYq# hShCejeYq# hShCfDeYq# hShCfOeYq# hShCfCeYq# hShCfWeYq# hShChUeYq# hShCy7SeYq# hShCmheYq# hShCpteYq# hShCpBeYq# !1f0b1 hShCy5ZeYpV hShCeEeYpV hShCePeYpV hShCeceYpV hShCejeYpV hShCfDeYpV hShCfOeYpV hShCfCeYpV hShCfWeYpV hShChUeYpV hShCy7SeYpV hShCmheYpV hShCpteYpV hShCpBeYpV hShCouy7V !1f0c1 hShCy5ZeYql hShCeEeYql hShCePeYql " ++
  "hShCeceYql hShCejeYql hShCfDeYql hShCfOeYql hShCfCeYql hShCfWeYql hShChUeYql hShCy7SeYql hShCmheYql hShCpteYql hShCpBeYql hShCeFy7V !1f0d1 hShCy5ZeYqk hShCeEeYqk hShCePeYqk hShCeceYqk hShCejeYqk hShCfDeYqk hShCfOeYqk hShCfCeYqk hShCfWeYqk hShChUeYqk hShCy7SeYqk hShCmheYqk hShCpteYqk hShCpBeYqk hShCeNy7V hShCzX# hShC#eq hShC#e& hShC#f2 hShC#f3 hShC#f4 hShC#f5 hShC#f6 hShC#f7 hShC#f8 hShC#er hShC#es hShC#et hShC#eu hShC#ev hShC#ew hShC#ex hShC#ey hShC#ez hShC#e# hShC#f0 hShC#f1 !1f100 Egxjgi1 Egxi& Ee9i& EeEi& EePi& Eeci& Eeji& EfDi& EfOi& EfCi& EfWi& lte5e7Egx ltgce5e7Egx e5gx2p# e5oGR e5wu12yG1wj fR750K fR750eM fR750hB fR750gg fR750eG fR750iB fR750gP fR750gi fR750eI fR750hh fR750gV fR750f7 fR750g8 fR750fn fR750eD fR750hI fR750j6 fR750ew fR750ex fR750gT fR750e8 fR750gZ fR750hc fR750hK fR750gw fR750gs nJlyt9750ex e5e4750hB e5e4750ew e5yOf e5#oY zIoB ez750K ez750eM ez750hB ez750gg ez750eG ez750iB ez750gP ez750gi ez750eI ez750hh ez750gV ez750f7 ez750g8 ez750fn ez750eD ez750hI ez750j6 ez750ew ez750ex ez750gT ez750e8 ez750gZ ez750hc ez750hK ez750gw ez750gs ezy7H ezy40 ez#Nm ezy9v ez#FC ezyfy gce5750K gce5750eM gce5750hB gce5750gg gce5750eG gce5750iB gce5750gP gce5750gi gce5750eI gce5750hh gce5750gV gce5750f7 gce5750g8 gce5750fn gce5750eD gce5750hI gce5750j6 gce5750ew gce5750ex gce5750gT gce5750e8 gce5750gZ gce5750hc gce5750hK gce5750gw gce5750gs lfyWX1 lfzz41 lfz&y1 e5yOe e5hB2yG1wj e5yDcvR gcez750K gcez750eM gcez750hB gcez750gg gcez750eG gcez750iB gcez750gP gcez750gi gcez750eI gcez750hh gcez750gV gcez750f7 gcez750g8 gcez750fn gcez750eD gcez750hI gcez750j6 gcez750ew gcez750ex gcez750gT gcez750e8 gcez750gZ gcez750hc gcez750hK gcez750gw gcez750gs rAgcez750hI gcezyDg gcezfl gcezgG gcezoF gcezyfy e3zNp ezz46 ezzIk ezy3D ezzj3 ezhD ezoc ezy8d ez#WH ezev2n4e2 ez#m6 ezePgg ezuoy4p ezeEgV ezecgV ezfCgV ezejm&e9 ezfOm&e9 ezyIzm&eE ezpchI eze9fUj&hI ez730gg ezzdl ezzdm ezzef ezzuE ez#Ui ez#hv ez#lr yEqyJJB !1f1e6 nBlkB0K nBlkB0eM nBlkB0hB nBlkB0gg nBlkB0eG nBlkB0iB nBlkB0gP " ++
  "nBlkB0gi nBlkB0eI nBlkB0hh nBlkB0gV nBlkB0f7 nBlkB0g8 nBlkB0fn nBlkB0eD nBlkB0hI nBlkB0j6 nBlkB0ew nBlkB0ex nBlkB0gT nBlkB0e8 nBlkB0gZ nBlkB0hc nBlkB0hK nBlkB0gw nBlkB0gs e3gpzgR ezeVzpZ ezeVgG !1f210 ezekjjzjO ezekjjzjK ezekjjzjC ezeVnz ezekjjyTI ezekjjzjI ezekjjzjj ezekjjzjJ ezekjjzj6 ezekjjzjV ezekjjzjc ezekjjzjT ezekjjzj9 ezekjjzjN ezekjjzj7 ezekjjzjU ezekjjzj8 ezekjjzji ezekjjzjd ezekjjzjk ezekjjzjH ezekjjzjF ezekjjzja ezekjjzjP ezekjjzjR ezekjjzj4 ezekjjyTH ezekjjzjm ezekjjzjM ezekjjzj5 ezekjjzjD ezekjjzjQ ezekjjzjl ezekjjyTJ ezekjjzjg ezekjjzjh ezekjjzjE ezekjjzjZ ezekjjzjX ezekjjzjW ezekjjzje ezekjjzjA ezekjjzjG ezekjjzjn !1f240 nJlyt9ekjjzjY nJlyt9ekjjyTH nJlyt9ekjjyTI nJlyt9ekjjzjL nJlyt9ekjjzjb nJlyt9ekjjyTJ nJlyt9ekjjzjf nJlyt9ekjjzjB nJlyt9ekjjzjS !1f250 e5gzyt0 e5gzysm !1f260 qVBe0uQ qVBe0nA qVBe0#UI qVBe0qd qVBe0#UT qVBe0z1Q !1f300 zJb zXu kQy5J y8S2#Xi ydBfgz&r ydB yOymnzSf #YufgyOL #IV y0Fmny8S r1ln #lv z#oy5N pmy71zV5 pmy71yu2 pmy71yvY y712zzR hDmUB yfxy0PmUB uOl6mUB yfxySBmUB jgmUB yfrySBmUB yESl6mUB yfry0PmUB y0PmU hDmU2f0 uOl6mU2f0 yESl6mU2f0 jgmU2f0 q02f0 zbfj7 #U5j7 ye6 eFyQP eNq0 eNq023tE eNq0yBItE eNq0yBItE2xW tE2xW tE2yHi tE2y3s tE2#e8 zXt t0yO4f0 y3Ty0V #b6 z0Y z35 #Nz zV7tx zMCtx y1Ytx z1M y3TyZM #fw z33yO3 #Kd zeg #Yt yO3 wweYzy3 wweYy1i zeC eco3z4P zyJo3 zWmo3 o3yRSitt0 #0W #dv yvx zc3 yWd #nK #bL zsj yzp #EC ouyMz vVyMz #Cx #Cu z32 #Y5 zdN ycTeY#EK y89iay5u #F3oZ y1izJ3 y1iri zIiy1i zJSOy1i #XoyBO #WP yOH yRbzYL #KSydIyZ# zLU #AT #Z6 zYKyc1 tPyBZ2y50zMe qzvayP8 #Tcva vayP8 zSE yP5 z3SfF z1Z zt# zJU zgTy8z #UF y#rey y8zeYy6s zIj y6uOy1B #boy5OySZ #Muy5vOy2q yAay0p z62y0p yenyQM yNgy8H yOzyNg#09 y07y5v y6uOy1B2#EQ y5v2#EwzIq #Eu sp #oI#FK y&KyBZ zlC yBitx yRHyBi zXR zXQ#WQ yBA yGB#Ev zIQri #bJtx rAzXh #EByPq vbyQD z1n#Y6 t0z3G mU#lYz2a yHC#NL zb&y5& mG2oPiakUd yOEeYzXp yF4y3y #JDsp Zy3i2zlD #YOyWn yV8#Vl y0MzpL y5ryN6Zy4D y5ryCPZy4D yRLzYG ysz#dC z1muV zX4yAZ yb8z60 zXUy4YOtP yWn z&uy5y z3# zdx yvO#Bp kBx8 z41yIL #dB z49y2d #DDyN5 yfhyRo " ++
  "yCRySt #VpyEl y&F yRovI y&t y3BhSz1k Zm# rLZy4D #NW zcK Zy3i #f9 #le Z#Ne yH5#T#2#NK ydyyaWOri ycSOycSyOC y#3OzgW z31ru #Vy #LL #Z3 #Wjy3y #ep uVyGs yu1yRV #LEyRV #ZE y2HztH zbo yGsz&n yGsvC yP9yBEOri #lw yRKySxwIOri vaySxwIO#Fp yIGydy#BfOri yHiz1gvr z1W y#a2y5J y2fyBx y0yyOL yOy zMay0yy2f z4By2f yPx yPxzl2 yXS#CU #Xa y0yy2f y0y2zZs yFvy2f vbyGWyFv yRByGWyFv zhM yBD yw5#c0yEl yT2 yEfyT2 zIhyd1 yHC zMXyd1 zWe zlBzsE vbyBd yRByBd eNyZJ eFyZJ yJCeNru yJCeFru yH3 eFyH3 zrH yzayaWO#Ug y0EOR yu4 uKeLy38#gY uKeLy38yfG uKeLy38yfH uKeLy38yfI uKeLy38yfJ y9B xL y8g r1z0J y2o yA8 zss yaV r9 vL zJ7 yg0 #Vv y9q uV y9A zbj yHN y3# #Kb z3A y0V y8u yO5 yCf #AS xfly z0K yuX zgU zrOyNh tP yentP y&b y5F zddyBg y07yBg zYMy07yBg y5t #D6 zpS #Es zSJyOV yzYyOV zO4 xLf0 y2of0 yA8f0 yaVf0 r9f0 vLf0 #Wlyg0 uVf0 y3#f0 y0Vf0 y8uf0 yD7f0 zdPf0 #o4f0 yNef0 #C2f0 y8usk yGC#FQ z3J n5 tN ww sk jz pf eNevhpv8f2 eNfBhpv8f2 eNdhpv8f2 eNbhpv8f2 zXVm41 yJCm41 y8dm41 yA7ev1 yA7fB1 z4AuT1 g9uT1 yPD yAbx8 zVQ #2z #aD zlN yQL zon y&D yAbyBo #G2 zdR #F2 zyDxb yvnxb zeqxb yAbybT yAby&g zX& z0city9k z0dity9k y&v zbU o5 we yRF o5Owey0vuT eEsjy0vuT eE#o5y0vuT y8x#AX we2z0RyQd z062#kP o72y&Zx7 o52zcDjhzyI o52yf4 yFwo5 yFwwe y07 yBx#oA #FP vb#AZ vbzbk yDJ y07yuD zVMyMh yMhz&c zkM yHe yDkzMfo7 zcH zLS ztd #1iyGT f0zyc zdE yzxy4Y #Zx #E6 y1Ae2 yEf0 ft zaEyHz y1A yOE zI&2mG #nT y#fmG y0GmG eEpV #WSmG zcCmG mG2R vAmG vVmG y5SmG yGhmG mG2sp yarpV mGyPq k6#TZ2KeJor y6cfIz0L yAxB y&e yHfB z69B #WeyA3B yQP kgB #E5eYy4a zXmy&5 yQAB xeyBA yITyBA eNy3B fU#ElB yX0y5m tFzVB eZwu1 yC2hC y5p2y5T1 y5p2wu1 y5p2yRA1 y5p2y8#1 yX02#ns y2i2gMyIoOy5T1 #Nu yZQyBu z07 z#t y6qy2u yYqjv zSk y37x2 g9y37x2 tg2ny tgy35ev yBa #bryBa hCf2 y2i2gMyIo y2i2gEyIo fFy2i z4K yGi rWyGi #CM lRybF oBybF yOA#b5 zsa yY9 yY92zMEyC0 kQy0D g9y0D vVy0D vAy0D y1Vy0D y&f vuyzZ #Nj zzL sEy9C #Bh yCryEl ybXyMr #FoysuzuI z2vzzE #BCyeb zkPyeb #Bd zT2B zkSuL uL2gERc kQy842yVQru kQy842lfru g9y842lfru g9y842yVQru #E# y8yld yXe y3zy8s y3zy8s2epRmnd #lQz&C y3zy8s#AW " ++
  "kuy3z#Dh yMr2y2Y y5y y5y2zXj yfhy5y #b& yaX #lR yRL#FY #Ex#Xr #FEy#b #gLeppN plepOf5g9fGpN plepOf5g9fGpN2e5e9np plgEOgMg9fGpN oGgEOgMg9fGpN fVyOJB fcyOJB xd2y5zeW xd xd2e9pdln xd2ePpdyJB yNX y6c#EW oYyWLy0p ngyWLy0p y7&2zkey1b kQy7&2ua ua y7& g9y7& wm wm2y5zeW yOA yVFB yaXy0J rh2f5Rc m12f5Rc ia2n4e22dbRc #WD2epRc kB2gMRc kue9tzuJB yU6hU y3WBe075yEZ y3WBe073yEZ y3WBe0#7h y3WBe0yID y3WBe07yEZ sX y6c#e7 yg7 y78 yYKOyBN zgP #EI z#U #b# zJIri fDlGj72eaeJ vbBe0y#l y5BzUI eFe3y0J eNe3y0J gvoufG gvvAfG gvy1Vk6 gvvAk6 3y1Vk6 3vAk6 pgoug7 rCoug7 pg3oug7 rC3oug7 f3brYeNfG fAbrYeNfG e5jfyGU jfyGU2y3PeH jfyGU tfdy4r2ePfZ tfby4r2ePfZ Be0zyRz2o eN7jf eZ7jf z2Qjf rNB yQIeYyGD zmt z&k #Zq zzO2fWz00 yBOeYziD mof0e9s5 mof0eEs5 mof0ePs5 mof0ecs5 mof0ejs5 mof0fDs5 mof0fOs5 mof0fCs5 mof0fWs5 mof0hUs5 mof0rqs5 mof0qas5 mof0#Ah mof0#gP mof0#cq mof0zYD mof0zXY mof0#VS mof0#SJ mof0zU0 mof0#4g mof0#c3 mof0zUD mof0#gG bxd bxd2e9pdln bxd2ePpdyJB yOM yOM2pdyJB #KBwm y0D z1Y zyGmo eFyHeOyPB ku#EF ySy o5itz0auszs# #Vjgr#Ws yPbydA ycn ycn#nS zm7 o5zLT dm4sEy9C sEy9C2tg bm4sEy9C eNyeWsE eFyeWsE sEiakBeYz&F z48y3zy8s rheYuL ycyuL uL2y3s yD0uL y1bfgycyuL zta#CN eFyGi f3dy8o f3dyzoy1b f3dyRZy1b f3d#Bk f3dzJ4 dyg8m4 fuy8dm41 lfm42m3ycq hGlfm42m3ycq hGyA7ev1 hGyA7fB1 hGyffm4 hGm42eatOn# lfm42yGAn1eaOftm3 eNfBhpdm4f2 oveNdhpf2 oveNbhpf2 oveFdhpf2 oveFbhpf2 eFdhpv8f2 eFbhpv8f2 oveNevhpf2 oveNfBhpf2 oveFevhpf2 oveFfBhpf2 eFevhpv8f2 eFfBhpv8f2 eFmG yPyyBu y3iOxL eP#37zIO ya3 #Efz1T eFtVlyy6qy2u eNtVlyy6qy2u qzlyy6qy2u ydoz1r #nwy3i e9y0JxL eEy0JxL ePy0JxL #eI ayZQyBu tVy2u y4p ya3yDh yCryDh yYqjvyDh y2x2ut y2x2utOyGK y2x2yGK y6x2yGK y6x2#dK y6x2lBhK eFx2 x2 g9x2 hCf2zNj hCy37ey y37z1K qCm# qCm#tg qCm#y4N m# m#tg m#y4N qCy2x qCtg qCyZ1 y2x tg yZ1 #nH xfm#y4N xfyBay4N yPyyg2 z#u zyn yG2 plbOdy4rpN y5zhK yDjyRUycPB yPryRUycPB zIN aua #KXyXe tg2e5ut yHyy2i woy1B vj #WWmgity9k ePsoc ePsoeH ePsod ePsob dxeu6 bxeu6 eExeyBT ePxeyBT dyITu6 byITu6 dyAxu6 byAxu6 yFBu6 y3syFBu6 y3syFB r7ey2r7 r7frhK r7ey2frhK r7PfrhK " ++
  "r7ey2PfrhK fIqje2 r7ey2Pqj #oBy3t z&qzYQ #dt#eF #XleYzt9 y9keYzlJ z&w y3Mf0 y3Mf02nhn5 f02yIKeYyD# nhf02g9jz nhf02g9jzOnhn5 nhf02g9jzOyBryA3 nhf02g9jzOyeAn5 nhf02zdK nhf02yT0 yg4f0 nhf02nhn5 f0#NSzMOy6s yalf0 nhf02ySfn5 nhf02ydA #Vtf0 kbf0 zVJf0 #i5f0 f02yBryA3 #D9f0 zITf0 zISf0 y7df0 f0#crKy1A y7df02nhn5 y7df02kQn5 f02yI3pf f02yI3pfOyg4tN f02yI3pfOyeAn5 yQ7f0 #oDf0 yuGf0 yGXf0 yC4f0 #DFf0 f02zu8eY#eh yQ7tAyalf0 y6zf02g9jz yuIf0 zWxf0 yfzf0 #Vif0 #dUf0 zcAf0 zuHyC4f0 f02g9jz zhkf0 f02g9jzOyBryA3 f0#NhitzWw yvgf0 zXrf0 yHff0 yQAf0 f0y5Ojz f02zz9yEq y3Mr9f02nhn5 r9f02yIKeYyD# nhr9f02g9jz nhr9f02ySfn5 r9f02#oMy4w y7dr9f02kQn5 yGXr9f0 yC4r9f0 yfzr9f0 y9oy6zf0 y9onhf0 #iQf0 f02yb9n5 f02kuzbryS1 f02y8dyS1 o7y&szMH #Nyy3# zdzy3# #WVy3# zdYo7yaYe9m4 o7yaYyODuTitz2O o7y6z o72yGXf0 o72zXvuT gKjUhpo3 hAjUhpo3 gKirhpo3 hAirhpo3 fugKjUhpo3 fuhAjUhpo3 fugKirhpo3 fuhAirhpo3 gKjUhpu&o3 hAjUhpu&o3 gKirhpu&o3 hAirhpu&o3 eZgKjUhpu&o3 eZhAjUhpu&o3 eZgKirhpu&o3 eZhAirhpu&o3 gKjUhpvB hAjUhpvB gKirhpvB hAirhpvB eZgKjUhpvB eZhAjUhpvB eZgKirhpvB eZhAirhpvB ySzy96e3il ySzy96e3iliteFe3 ycey96e3il ycey96e3iliteFe3 f5y4m gMy4m epy4m gEy4m frWrFil eZfrWrFil Wg9rFil eZWg9rFil eZv5il y1#v5il e7eZeBfui&mKe2il e7eZeBi&mKe2il e7eZfVeBi&mKe2il eZy3Xil e7y3Xil eZe7y3Xil mAeZni mAeZoNni y62y2d oNy62y2d y4m ze5 yc&yVL y99vC ySoyIm ySoyIm2qhsk yIm zzb fI#IU #Xk yeZ yeZvC yBW y4IyBW #ek yBWi1 z#s yu0 sXyQy y8xvC y4Iy8xvC ydq y4Iydq yND y4IyND #Iy#kO zMQyIp yvNzuC #eJ z&a vry99 yI9y99 vrz1L yt6#eM yHQ #Kh #WX g4y5AfI ehy5AfI yBx1 y8xz1qyarfI oBruiayGW yQG kuyCi1 ycZB kuycZB yGjyVIitzl5xTB oVigyVIB #F0r1B #67r1B y&6 kuy&7 yNn vryNn yZH ku#Cy z3Elq zzPB #o6B #JQ y07B #ds r1z4N #UK yBF yNW #Cgy0M zJW yzez47 dyVS g72qVy0O #FV1 e5yDkyHm y&wB zbVB zIyOyUq yHfysn yb#yzf y#pwm y#h xTeY#oE #AQ1 yb##ej #YQ #Bi zet#c2 zhl zUB !1f6dd #ER#Vk yAZ ftz0V y78Oyg7 yHP y8cy0W z&p y99yeX yX6yO6 pgyF4v4 pgv4 pg3v4 3v4 #6Cv4 v4yPw v4yvI !1f6f0 ybX y4IsXyQy zN9yVL #CcyHQ yba yX6yba z1d #Vg yD0#NP #VX yw4#Jm #DqyIp yb8ycR !1f700 " ++
  "fxBe0#HE fxBe0y01 fxBe0sX fxBe0pm fxBe0r1 fxBe0yus fxBe0y5g#I& fxBe0y5g#J0 fxBe0y5g#ll fxBe0y5g#lm fxBe0yfj fxBe0#lc fxBe0#ld fxBe0yI6 fxBe0#DcyI6 fxBe0eFyI6 fxBe0y8By4# fxBe0y8B#Yi fxBe0y8B#Yj fxBe0z3& fxBe0tm fxBe0#4o fxBe0#ln fxBe0#lo fxBe0yH1tm fxBe0yH1#N5 fxBe0y72 fxBe0#V6 fxBe0y7OxR fxBe0y7O#A& fxBe0yC3eYy7O fxBe0y9DeYy7O fxBe0y0NxR fxBe0zkxxR fxBe0y4#eYy0N fxBe0yC3eYy0N fxBe0yC3eYzIm fxBe0y0NyMs fxBe0tmeYy0NyMs fxBe0y4#eYtmeYy0N fxBe0#kS fxBe0#dNxR fxBe0zsXxR fxBe0y04xR fxBe0y4#eYy04 fxBe0tmeYy04 fxBe0y4#eYtmeYy04 fxBe0yfjeYy04 fxBe0y9DeYy04 fxBe0y9DeYyuc fxBe0y9D fxBe0#J2 fxBe0#J3 fxBe0#J4 fxBe0ytq fxBe0ytr fxBe0zyL fxBe0#M# fxBe0yvK fxBe0#Ir fxBe0#Is fxBe0yw2 fxBe0y&PxR fxBe0#bQ fxBe0#bR fxBe0#HBztP fxBe0y&i fxBe0y&j fxBe0y&k fxBe0yty fxBe0y8c fxBe0y9s fxBe0#dP fxBe0yDQ fxBe0yfw fxBe0#F6 fxBe0z1U fxBe0#gA fxBe0z1jz&j fxBe0#NbeYzm4 fxBe0yOS fxBe0y5B fxBe0#Xhy5B fxBe0ztw fxBe0yca fxBe0#iW fxBe0uVyQQ fxBe0yN7 fxBe0y8zyN7 fxBe0yBR fxBe0#F7yBR fxBe0ytz fxBe0yI0ydCyI0 fxBe0yI0ydC#Y3 fxBe0#Yk fxBe0#FG fxBe0zNd fxBe0zNb fxBe0zNc fxBe0#F& fxBe0#G7 fxBe0zJA fxBe0zJB fxBe0zJC fxBe0zJD fxBe0zJE fxBe0yMe fxBe0yBFeYzyY fxBe0yBFeY#kA fxBe0#JS fxBe0n8 fxBe0y8S fxBe0zLf fxBe0yF9 fxBe0f6yQK fxBe0f6yYv !1f780 eFoYy7Qbg7 eFpgy7Qbg7 eFngy7Qbg7 eFrCy7Qbg7 eFy9o3fG gFPeNfG PeNfG eZeNfG mAeZeNfG y0ieZeNfG eNfGuDeF3fG rWyII eFy57e3 eFy9o3e3 fIeNe3 gFeNe3 PeNe3 eZeNe3 mAeZeNe3 y0ieZeNe3 eNe3uDeFmA3e3 eNe3uDeFgFe3 e3yII eFy57k6 eFmA3k6 eFgF3k6 eNk6uDeFmA3k6 eNk6uDeFgFk6 k6yII eFy57rH eFmA3rH eFgF3rH eNrHuDeF3rH yA6Xjf fIXjf gFXjf PXjf mAPXjf mAeZXjf y0ieZXjf yA6sq fIsq gFsq Psq eZsq mAeZsq y0ieZsq fIejpHkD gFejpHkD PejpHkD eZejpHkD mAeZejpHkD y0ieZejpHkD fIfDpHkD gFfDpHkD PfDpHkD eZfDpHkD mAeZfDpHkD y0ieZfDpHkD fIfCpHkD gFfCpHkD PfCpHkD eZfCpHkD mAeZfCpHkD fIePlGeFj7 gFePlGeFj7 ePlGeFj7 gFePlGuij7 fIeclGeFj7 gFeclGeFj7 eclGeFj7 gFeclGuij7 oNfIeclGuij7 fIejlGeFj7 eZejlGeFj7 gFfDlGeFj7 eZfDlGeFj7 fDlGuij7 gFfClGeFj7 eZfClGeFj7 mAeZfClGeFj7 eZfClGuij7 fIqalGeFj7 eZqalGeFj7 eZqalGuij7 " ++
  "e5g7 gce5g7 e5e3 gce5e3 !1f7e0 gvy1VfG gvy5SfG gvvVfG gvyGhfG gvyBSfG gvoue3 gvvAe3 gvy1Ve3 gvy5Se3 gvvVe3 gvyGhe3 gvyBSe3 !1f7f0 eZlL1 !1f800 f5R23g7ht gMR23g7ht epR23g7ht gER23g7ht f5R2gFg7ht gMR2gFg7ht epR2gFg7ht gER2gFg7ht f5R2gvg7ht gMR2gvg7ht epR2gvg7ht gER2gvg7ht !1f810 f5R23nbht gMR23nbht epR23nbht gER23nbht f5R2nbht gMR2nbht epR2nbht gER2nbht eZf5R2nbht eZgMR2nbht eZepR2nbht eZgER2nbht eZf5R2gvnbht eZgMR2gvnbht eZepR2gvnbht eZgER2gvnbht f5hsR2y1PnE gMhsR2y1PnE ephsR2y1PnE gEhsR2y1PnE f5hsR2gFnE gMhsR2gFnE ephsR2gFnE gEhsR2gFnE f5hsR2PnE gMhsR2PnE ephsR2PnE gEhsR2PnE f5hsR2eZnE gMhsR2eZnE ephsR2eZnE gEhsR2eZnE f5hsR2mAeZnE gMhsR2mAeZnE ephsR2mAeZnE gEhsR2mAeZnE f5y6oR gMy6oR epy6oR gEy6oR f5ezR gMezR epezR gEezR f5vER gMvER epvER gEvER f5eZvER gMeZvER epeZvER gEeZvER f5eZR gMeZR epeZR gEeZR !1f850 f5e7R gMe7R epe7R gEe7R gKjUe7R gKire7R hAire7R hAjUe7R dbe7R evfBe7R !1f860 klf5fIgIR klgMfIgIR klepfIgIR klgEfIgIR klgKjUfIgIR klgKirfIgIR klhAirfIgIR klhAjUfIgIR klf5gIR klgMgIR klepgIR klgEgIR klgKjUgIR klgKirgIR klhAirgIR klhAjUgIR klf5gFgIR klgMgFgIR klepgFgIR klgEgFgIR klgKjUgFgIR klgKirgFgIR klhAirgFgIR klhAjUgFgIR klf5eZgIR klgMeZgIR klepeZgIR klgEeZgIR klgKjUeZgIR klgKireZgIR klhAireZgIR klhAjUeZgIR klf5mAeZgIR klgMmAeZgIR klepmAeZgIR klgEmAeZgIR klgKjUmAeZgIR klgKirmAeZgIR klhAirmAeZgIR klhAjUmAeZgIR !1f890 f5g7ht gMg7ht epg7ht gEg7ht f5eNRxyg7ht gMeNRxyg7ht epeNRxyg7ht gEeNRxyg7ht f5R2tfj1 gMR2tfj1 epR2tfj1 gER2tfj1 eZRnEs&e9 eZRnEs&eEuv eZRnEs&e9f6 eZRnEs&e9rb f5y&qeNR eplCyHLeNR f5kByHLeNR epkByHLeNR f5yEXeNR epyG#eNR f5yG#eNR epyEXeNR f5yB8rYeNR epyB8rYeNR f5yD8rYeNR epyD8rYeNR eNRnEs&e9 eNRnEs&eEuv !1f8b0 RhpgMuugKjU Rhpepuuy2rhAjU !1f900 e5jfyD42ecfZ e5jfyD42eEfZ e5jfyD4 df6fG2ecfZ df6fG2ePfZ df6fG2eEfZ df6fG2eJ df6fG y6Ty35eg y6Ty35tfeg y6Ty35eg2eJ y6Ty35tfeg2eJ #E9m3 eNmG yBSmG #EAm4 #tHf0 z&Wf0 f02ye6 #34f0 #caf0 f02zdv #KUf0 yT4f0 1eYkUyT0 yBblem4 lfrheYm4 y7vyCy y9LyCy zdU m42f2Oeam3rA eIyEf#r3m41 f02zJ0x8 z4Qf0 #1uf0 yb9iakUp2zsN zSKf0 zugf0 " ++
  "f0y1Y #Vxf0 f02e9zVPlf y3Mf02j7n5 y3Mf02e9gvOe93tN f02tOyC1kQvj #SCf02yIDyC1jz nhf02nhn5Om4yC1jz f02g9jz#l# #U1f02zVHmg yGdwe z03 #BtevyAB #S1 #FO o5it#gD yX5yBi #US o7zO0z1s zmC zX2 z&G#DB #oK r1#Ep zdS zNlyEq #nqy3B y0W2zSN yOzzbb #fyy0p yHp vUy1R #K0 uOxTy3y uoxTy3y rbxTy3y y&uzbd zyVyN5#iG zJRyHz zrMwIOri #W7 yD0jv zJ8 ywA zJK yzX yZ# z1p yzgyOH vV#N1 #TVyG5eYy6s #YPyRO yQi y0peYz#n #Cw zo# #C1 zSU zY8yP5 #bDey z3W yBO2yHp y2q2#Y4 z63 z0A yZb #FM yC8eYy89 #ND z1cy6s zsZvV zyA mUyBZ yzd nhf02nhn5OePpV #qGf0 nhf02#bq f02yGBldOyGBx8 f02#iDn5Os#jz #BEf0 zYIf0 #4h zNYf0 f0y0vrhyIK f02#ESn5 ybW zrFyO& zbl zesyOC x1xb zJ2 ztcf0 #Nf #g3 #iFf0 yQc zSP yBE #Tb #BF yRaf0 z0f yCL zbw ztk #Jb yc1 #Wu zbTf0 #saf0 ze0 #NR #aC yP9 znA ztl #Cv zeu #CV #IK zts z&l z#T yNS #ZC zy6 zN& #Vq #BA #Az #Vb zXi #BI yBH y&Q yHD zcJy0V #FSz1a uKy6Aoux7 uKy6AlKx7 uKy6Ayzm uKy6AeNx7 y5u oZ y6t yAE #Y# #Z0 yH6#lG ww2zd#ytR z&oyJF zyHyJF yWanw yWaoZ z2w#nU zJN tm#TT yNkey zZt #Ak zWl #n5 z0e zygyQM vayC6 u6#bn #ei #Xeo7 zpKo7 zM8o7 f02z&Z yMS yBh yFwyMS y#eo7 o72zdy o7it#Xp#Ka o7z4I o7ity82y1d zxt zWj #k8 zzS zUE zaJ #tN y&# y1VmG y&Ey5& #Na zbe yO& #W6 ouzbNuL zXP zld#GAw4 #c9#ft #DOnm zNyeBze6 z6J ysg sXzVK #e4 yBR zxv yVS zuGy5v #WieYyIU rieY#q6 yH6yZj #buyNe z0C y#2 #KWeYy8j fFeYyca #Wh #It #1zyu6 kbgmpB kbgmpt kbgms9 kbgmrj kbgmmh kbgms7 eNgmmhipyD5jc eFgmmhipyD5jc kbgmmhipyD5jc eNgmpBipl5jc eNgmptipl5jc eNgms9ipl5jc eNgmrjipl5jc eNgmmhipl5jc eNgms7ipl5jc eFgmpBipl5jc eFgmptipl5jc eFgms9ipl5jc eFgmrjipl5jc eFgmmhipl5jc eFgms7ipl5jc kbgmpBipl5jc kbgmptipl5jc kbgms9ipl5jc kbgmrjipl5jc kbgmmhipl5jc kbgms7ipl5jc eNgmmhipe9fUyIQjc eFgmmhipe9fUyIQjc kbgmmhipe9fUyIQjc eNgmfupB eNgmfupt eNgmfus9 eNgmfurj eNgmfumh eNgmfus7 eFgmfupB eFgmfupt eFgmfus9 eFgmfurj eFgmfumh eFgmfus7 kbgmfupB kbgmfupt kbgmfus9 kbgmfurj kbgmfumh kbgmfus7 eNgmmhipeEfUyANjc eFgmmhipeEfUyANjc kbgmmhipeEfUyANjc eNgmpBipeEfUlhjc eNgmptipeEfUlhjc eNgms9ipeEfUlhjc eNgmrjipeEfUlhjc eNgmmhipeEfUlhjc eNgms7ipeEfUlhjc " ++
  "eFgmpBipeEfUlhjc eFgmptipeEfUlhjc eFgms9ipeEfUlhjc eFgmrjipeEfUlhjc eFgmmhipeEfUlhjc eFgms7ipeEfUlhjc kbgmpBipeEfUlhjc kbgmptipeEfUlhjc kbgms9ipeEfUlhjc kbgmrjipeEfUlhjc kbgmmhipeEfUlhjc kbgms7ipeEfUlhjc eNgmmhipePfUsWjc eFgmmhipePfUsWjc kbgmmhipePfUsWjc eNgmy0e eFgmy0e kbgmy0e eNgmy0eipl5jc eFgmy0eipl5jc kbgmy0eipl5jc eNgmyUN eNgmyUO eNgmyUM eFgmyUN eFgmyUO eFgmyUM !1fa60 r3ouyRy r3ouyWO r3ouyCf r3ouuV r3ouy2h r3ouyOX r3ouycd r3eFyRy r3eFyWO r3eFyCf r3eFuV r3eFy2h r3eFyOX r3eFycd !1fa70 yzn#U2 #Ag#ZG z08 y9i ye8ybT !1fa78 zSLeYyO2 yswyzr #Xs #oZ zJG !1fa80 #q# zox #CP yOB zxu#nA #E8 #36yQD !1fa90 #KA#EO yOn #Ik yB5 zNoyUq yzt yF4y7D yso g2y0W z67 yOYyH9 #Ni zrN eg yWv yg2 #Ea #SM#2# zpM z0H xL#eP #e6 ySe #EM yH1 yWvri yTGhC fVyNX zdO !1fab0 yC& #oC yNh z61 #F1#EP yJI y6n y82 zIp qCyXd yXd2zTz !1fac0 yu9mG zuR yZLyT4 yGdo5 yGdo7 o72yPD !1fad0 y&c wmyZM yYh yRO #bG zXy #bp #F4yVG y#d yTe !1fae0 zzJf0 #N6f0 f02g9n5Om4fgjz f02#C#tN f02gJjz kZiNf0 yNty7z yBT !1faf0 m42f2tOOferA epm4 f5m4 y1YfBm4 y1Yevm4 f2hpmnkU#lX mGuT !1fb00 f9#SP f9#St f9#SQ f9#T6 f9#Sf f9#Su f9#SR f9#TE f9#Sm f9#T0 f9#SY f9#T7 f9#Sg f9#Sv f9#SS f9#TI f9#Sq f9#T3 f9#Sc f9#TB f9#Sz f9#SV f9#TF f9#Sn f9#T1 f9#SZ f9#T8 f9#Sh f9#Sw f9#ST f9#TK f9#Ss f9#T5 f9#Se f9#TD f9#Sl f9#S& f9#SX f9#TH f9#Sp f9#Sb f9#TA f9#Sj f9#Sy f9#SU f9#TJ f9#Sr f9#T4 f9#Sd f9#TC f9#Sk f9#S# f9#SW f9#TG f9#So f9#T2 f9#Sa f9#T9 f9#Si f9#Sx f3df9gJf3eadeQf3ie f3df9gJf3eadeQf3b f3df9gJfAeadeQf3ie f3df9gJfAeadeQf3b f3df9gJfAdeQf3ie f3bf9gJfAeadeQfAie f3bf9gJfAeadeQfAb f3bf9gJf3eadeQfAie f3bf9gJf3eadeQfAb f3bf9gJf3deQfAie f3bf9gJf3eadeQfAeab f3bf9gJf3ieeQf3eab f3bf9gJf3deQf3eab f3bf9gJf3ieeQfAeab f3bf9gJf3deQfAeab f3bf9gJf3ieeQfAb f3df9gJfAieeQfAeab f3df9gJfAdeQfAeab f3df9gJfAieeQf3eab f3df9gJfAdeQf3eab f3df9gJfAieeQf3b f3df9gJfAeadeQf3eab fAbf9gJf3eadeQf3ie fAbf9gJf3eadeQf3b fAbf9gJfAeadeQf3ie fAbf9gJfAeadeQf3b fAbf9gJfAdeQf3ie fAdf9gJfAeadeQfAie fAdf9gJfAeadeQfAb fAdf9gJf3eadeQfAie fAdf9gJf3eadeQfAb fAdf9gJf3deQfAie " ++
  "fAdf9gJf3eadeQfAeab fAdf9gJf3ieeQf3eab fAdf9gJf3deQf3eab fAdf9gJf3ieeQfAeab fAdf9gJf3deQfAeab fAdf9gJf3ieeQfAb fAbf9gJfAieeQfAeab fAbf9gJfAdeQfAeab fAbf9gJfAieeQf3eab fAbf9gJfAdeQf3eab fAbf9gJfAieeQf3b fAbf9gJfAeadeQf3eab fAObOf3oBePqQf9 dOf3OboBePqQf9 fAOdOf3oBePqQf9 dOfAOboBePqQf9 doBe9l6f9 fAoBe9l6f9 boBe9l6f9 f3oBe9l6f9 ehe9l1yNy ehe9l1yNz ehe9l1yN# ehe9l1yN& ehe9l1yO0 ehe9l1yO1 g4e9l1yNy g4e9l1yNz g4e9l1yN# g4e9l1yN& g4e9l1yO0 g4e9l1yO1 dOf3e9l1f9 dOfAe9l1f9 bOfAe9l1f9 bOf3e9l1f9 fAOf3e9l1f9 g4e9l1y&Y fAe9l6f9 fAePqAf9 fAejqAf9 fAePqQf9 fAfOqAf9 be9l6f9 bePqAf9 bejqAf9 bePqQf9 bfOqAf9 df6gFqW bf6gFqW fAf6gFqW f3f6gFqW sagFqW fAf6f9Of3f6sagFqW fAf6sagFqWOf3f6f9 !1fb94 df6sagFqWObf6f9 y62y2dp1 say62y2dp1 eZg4p1 fAdeQf3bp1 fAbeQf3dp1 fAOf3oBf6f9 dOboBf6f9 fAdoBgFqW fAboBgFqW f3boBgFqW f3doBgFqW eyfMfIgJfAieeQead eyfMfIgJfAieeQeab eyfMfIgJeadeQf3ie eyfMfIgJeabeQf3ie eyfMfIgJfAieeQeadeQf3ie eyfMfIgJfAieeQeabeQf3ie eyfMfIgJeadeQf3ieeQeab eyfMfIgJeadeQfAieeQeab eyfMfIgJfAieeQeadOeabeQf3ie eyfMfIgJfAieeQeabOeadeQf3ie eyfMfIgJfAieeQeabeQf3ieeQead eyfMfIgJfAieeQeadeQf3ieeQeab eyfMfIgJeadeQfAieeQeabeQf3ie eyfMfIgJeabeQfAieeQeadeQf3ie eyfMfIgJk6 eyfMfIg42eheW yvJy4X saqje2 df6yH5o5 bf6yH5o5 sagER2oPf5 f5ROfAOf3e9l1f9 epROfAOf3e9l1f9 gERObe9l1f9 gMRObe9l1f9 df6x2 bf6x2 #luXjf bg9ezeJ gcgJjf gcgJeabeQf3ie gcgJk6 eNeZsq2qVy0O drbeNbhpf2 earbeNbhpf2 brbeNbhpf2 gcezmZe2 wIvR wIvR2yvBlf wIvRyV0d wIvRyV0b wIvR2yQL eNpgyOr !1fbf0 tnEgx tnEe9 tnEeE tnEeP tnEec tnEej tnEfD tnEfO tnEfC tnEfW !e0001 zsDgL !e0020 gLo9 gLn4e2 gLmKe2 gLT1 gLwu1 gLy4U1 gLv5 gLu2 gLdkF gLbkF gLkD gLeu1 gLi& gLy7I gLjgi1 gLni gLEgx gLEe9 gLEeE gLEeP gLEec gLEej gLEfD gLEfO gLEfC gLEfW gLlp gLsA gLj51 gLlL1 gLj41 gLmZe2 gLy2nmn gL750K gL750eM gL750hB gL750gg gL750eG gL750iB gL750gP gL750gi gL750eI gL750hh gL750gV gL750f7 gL750g8 gL750fn gL750eD gL750hI gL750j6 gL750ew gL750ex gL750gT gL750e8 gL750gZ gL750hc gL750hK gL750gw gL750gs gLde3fP gLoNni gLbe3fP gLhZiS gLfViN gLiMiS gL730K gL730eM gL730hB gL730gg " ++
  "gL730eG gL730iB gL730gP gL730gi gL730eI gL730hh gL730gV gL730f7 gL730g8 gL730fn gL730eD gL730hI gL730j6 gL730ew gL730ex gL730gT gL730e8 gL730gZ gL730hc gL730hK gL730gw gL730gs gLdlKfP gLehiN gLblKfP gLgH yOWgL !e0100 eR#PE eR#PP eR#Pa eR#Pm eR#Px eR#Q6 eR#QH eR#QS eR#Qd eR#Ql eR#Qm eR#Qn eR#Qo eR#Qq eR#Qr eR#Qs eR#Qt eR#Qu eR#Qv eR#Qw eR#Qx eR#Qy eR#Qz eR#Q& eR#R0 eR#R1 eR#R2 eR#R3 eR#R4 eR#R5 eR#R6 eR#R7 eR#R8 eR#RA eR#RB eR#RC eR#RD eR#RE eR#RF eR#RG eR#RH eR#RI eR#RJ eR#RL eR#RM eR#RN eR#RO eR#RP eR#RQ eR#RR eR#RS eR#RT eR#RU eR#RW eR#RX eR#RY eR#RZ eR#Ra eR#Rb eR#Rc eR#Rd eR#Re eR#Rf eR#Rh eR#Ri eR#Rj eR#Rk eR#Rl eR#Rm eR#Rn eR#Ro eR#Rp eR#Rq eR#Rs eR#Rt eR#Ru eR#Rv eR#Rw eR#Rx eR#Ry eR#Rz eR#R# eR#R& eR#O2 eR#O3 eR#O4 eR#O5 eR#O6 eR#O7 eR#O8 eR#O9 eR#OA eR#OB eR#OD eR#OE eR#OF eR#OG eR#OH eR#OI eR#OJ eR#OK eR#OL eR#OM eR#OO eR#OP eR#OQ eR#OR eR#OS eR#OT eR#OU eR#OV eR#OW eR#OX eR#OZ eR#Oa eR#Ob eR#Oc eR#Od eR#Oe eR#Of eR#Og eR#Oh eR#Oi eR#Ok eR#Ol eR#Om eR#On eR#Oo eR#Op eR#Oq eR#Or eR#Os eR#Ot eR#Ov eR#Ow eR#Ox eR#Oy eR#Oz eR#O# eR#O& eR#P0 eR#P1 eR#P2 eR#P4 eR#P5 eR#P6 eR#P7 eR#P8 eR#P9 eR#PA eR#PB eR#PC eR#PD eR#PF eR#PG eR#PH eR#PI eR#PJ eR#PK eR#PL eR#PM eR#PN eR#PO eR#PQ eR#PR eR#PS eR#PT eR#PU eR#PV eR#PW eR#PX eR#PY eR#PZ eR#Pb eR#Pc eR#Pd eR#Pe eR#Pf eR#Pg eR#Ph eR#Pi eR#Pj eR#Pk eR#Pn eR#Po eR#Pp eR#Pq eR#Pr eR#Ps eR#Pt eR#Pu eR#Pv eR#Pw eR#Py eR#Pz eR#P# eR#P& eR#Q0 eR#Q1 eR#Q2 eR#Q3 eR#Q4 eR#Q5 eR#Q7 eR#Q8 eR#Q9 eR#QA eR#QB eR#QC eR#QD eR#QE eR#QF eR#QG eR#QI eR#QJ eR#QK eR#QL eR#QM eR#QN eR#QO eR#QP eR#QQ eR#QR eR#QT eR#QU eR#QV eR#QW eR#QX eR#QY eR#QZ eR#Qa eR#Qb eR#Qc eR#Qe eR#Qf eR#Qg eR#Qh eR#Qi eR#Qj eR#Qk"

/-- Further names of characters. -/
def aliasText : String :=
  "0=NUL 0=NULL 1=SOH 1=START_OF_HEADING 2=START_OF_TEXT 2=STX 3=END_OF_TEXT 3=ETX 4=END_OF_TRANSMISSION 4=EOT 5=ENQ 5=ENQUIRY 6=ACK 6=ACKNOWLEDGE 7=ALERT 7=BEL 8=BACKSPACE 8=BS 9=CHARACTER_TABULATION 9=HORIZONTAL_TABULATION 9=HT 9=TAB a=END_OF_LINE a=EOL a=LF a=LINE_FEED a=NEW_LINE a=NL b=LINE_TABULATION b=VERTICAL_TABULATION b=VT c=FF c=FORM_FEED d=CARRIAGE_RETURN d=CR e=LOCKING-SHIFT_ONE e=SHIFT_OUT e=SO f=LOCKING-SHIFT_ZERO f=SHIFT_IN f=SI 10=DATA_LINK_ESCAPE 10=DLE 11=DC1 11=DEVICE_CONTROL_ONE 12=DC2 12=DEVICE_CONTROL_TWO 13=DC3 13=DEVICE_CONTROL_THREE 14=DC4 14=DEVICE_CONTROL_FOUR 15=NAK 15=NEGATIVE_ACKNOWLEDGE 16=SYN 16=SYNCHRONOUS_IDLE 17=END_OF_TRANSMISSION_BLOCK 17=ETB 18=CAN 18=CANCEL 19=END_OF_MEDIUM 19=EOM 1a=SUB 1a=SUBSTITUTE 1b=ESC 1b=ESCAPE 1c=FILE_SEPARATOR 1c=FS 1c=INFORMATION_SEPARATOR_FOUR 1d=GROUP_SEPARATOR 1d=GS 1d=INFORMATION_SEPARATOR_THREE 1e=INFORMATION_SEPARATOR_TWO 1e=RECORD_SEPARATOR 1e=RS 1f=INFORMATION_SEPARATOR_ONE 1f=UNIT_SEPARATOR 1f=US 20=SP 7f=DEL 7f=DELETE 80=PAD 80=PADDING_CHARACTER 81=HIGH_OCTET_PRESET 81=HOP 82=BPH 82=BREAK_PERMITTED_HERE 83=NBH 83=NO_BREAK_HERE 84=IND 84=INDEX 85=NEL 85=NEXT_LINE 86=SSA 86=START_OF_SELECTED_AREA 87=END_OF_SELECTED_AREA 87=ESA 88=CHARACTER_TABULATION_SET 88=HORIZONTAL_TABULATION_SET 88=HTS 89=CHARACTER_TABULATION_WITH_JUSTIFICATION 89=HORIZONTAL_TABULATION_WITH_JUSTIFICATION 89=HTJ 8a=LINE_TABULATION_SET 8a=VERTICAL_TABULATION_SET 8a=VTS 8b=PARTIAL_LINE_DOWN 8b=PARTIAL_LINE_FORWARD 8b=PLD 8c=PARTIAL_LINE_BACKWARD 8c=PARTIAL_LINE_UP 8c=PLU 8d=REVERSE_INDEX 8d=REVERSE_LINE_FEED 8d=RI 8e=SINGLE_SHIFT_TWO 8e=SINGLE-SHIFT-2 8e=SS2 8f=SINGLE_SHIFT_THREE 8f=SINGLE-SHIFT-3 8f=SS3 90=DCS 90=DEVICE_CONTROL_STRING 91=PRIVATE_USE_ONE 91=PRIVATE_USE-1 91=PU1 92=PRIVATE_USE_TWO 92=PRIVATE_USE-2 92=PU2 93=SET_TRANSMIT_STATE 93=STS 94=CANCEL_CHARACTER 94=CCH 95=MESSAGE_WAITING 95=MW 96=SPA 96=START_OF_GUARDED_AREA 96=START_OF_PROTECTED_AREA 97=END_OF_GUARDED_AREA 97=END_OF_PROTECTED_AREA 97=EPA 98=SOS " ++
  "98=START_OF_STRING 99=SGC 99=SINGLE_GRAPHIC_CHARACTER_INTRODUCER 9a=SCI 9a=SINGLE_CHARACTER_INTRODUCER 9b=CONTROL_SEQUENCE_INTRODUCER 9b=CSI 9c=ST 9c=STRING_TERMINATOR 9d=OPERATING_SYSTEM_COMMAND 9d=OSC 9e=PM 9e=PRIVACY_MESSAGE 9f=APC 9f=APPLICATION_PROGRAM_COMMAND a0=NBSP ad=SHY 1a2=LATIN_CAPITAL_LETTER_GHA 1a3=LATIN_SMALL_LETTER_GHA 34f=CGJ 61c=ALM 709=SYRIAC_SUBLINEAR_COLON_SKEWED_LEFT cde=KANNADA_LETTER_LLLA e9d=LAO_LETTER_FO_FON e9f=LAO_LETTER_FO_FAY ea3=LAO_LETTER_RO ea5=LAO_LETTER_LO fd0=TIBETAN_MARK_BKA-_SHOG_GI_MGO_RGYAN 11ec=HANGUL_JONGSEONG_YESIEUNG-KIYEOK 11ed=HANGUL_JONGSEONG_YESIEUNG-SSANGKIYEOK 11ee=HANGUL_JONGSEONG_SSANGYESIEUNG 11ef=HANGUL_JONGSEONG_YESIEUNG-KHIEUKH 180b=FVS1 180c=FVS2 180d=FVS3 180e=MVS 180f=FVS4 200b=ZWSP 200c=ZWNJ 200d=ZWJ 200e=LRM 200f=RLM 202a=LRE 202b=RLE 202c=PDF 202d=LRO 202e=RLO 202f=NNBSP 205f=MMSP 2060=WJ 2066=LRI 2067=RLI 2068=FSI 2069=PDI 2118=WEIERSTRASS_ELLIPTIC_FUNCTION 2448=MICR_ON_US_SYMBOL 2449=MICR_DASH_SYMBOL 2b7a=LEFTWARDS_TRIANGLE-HEADED_ARROW_WITH_DOUBLE_VERTICAL_STROKE 2b7c=RIGHTWARDS_TRIANGLE-HEADED_ARROW_WITH_DOUBLE_VERTICAL_STROKE a015=YI_SYLLABLE_ITERATION_MARK aa6e=MYANMAR_LETTER_KHAMTI_LLA fe00=VS1 fe01=VS2 fe02=VS3 fe03=VS4 fe04=VS5 fe05=VS6 fe06=VS7 fe07=VS8 fe08=VS9 fe09=VS10 fe0a=VS11 fe0b=VS12 fe0c=VS13 fe0d=VS14 fe0e=VS15 fe0f=VS16 fe18=PRESENTATION_FORM_FOR_VERTICAL_RIGHT_WHITE_LENTICULAR_BRACKET feff=BOM feff=BYTE_ORDER_MARK feff=ZWNBSP 122d4=CUNEIFORM_SIGN_NU11_TENU 122d5=CUNEIFORM_SIGN_NU11_OVER_NU11_BUR_OVER_BUR 16e56=MEDEFAIDRIN_CAPITAL_LETTER_H 16e57=MEDEFAIDRIN_CAPITAL_LETTER_NG 16e76=MEDEFAIDRIN_SMALL_LETTER_H 16e77=MEDEFAIDRIN_SMALL_LETTER_NG 1b001=HENTAIGANA_LETTER_E-1 1d0c5=BYZANTINE_MUSICAL_SYMBOL_FTHORA_SKLIRON_CHROMA_VASIS e0100=VS17 e0101=VS18 e0102=VS19 e0103=VS20 e0104=VS21 e0105=VS22 e0106=VS23 e0107=VS24 e0108=VS25 e0109=VS26 e010a=VS27 e010b=VS28 e010c=VS29 e010d=VS30 e010e=VS31 e010f=VS32 e0110=VS33 e0111=VS34 e0112=VS35 e0113=VS36 e0114=VS37 e0115=VS38 e0116=VS39 e0117=VS40 " ++
  "e0118=VS41 e0119=VS42 e011a=VS43 e011b=VS44 e011c=VS45 e011d=VS46 e011e=VS47 e011f=VS48 e0120=VS49 e0121=VS50 e0122=VS51 e0123=VS52 e0124=VS53 e0125=VS54 e0126=VS55 e0127=VS56 e0128=VS57 e0129=VS58 e012a=VS59 e012b=VS60 e012c=VS61 e012d=VS62 e012e=VS63 e012f=VS64 e0130=VS65 e0131=VS66 e0132=VS67 e0133=VS68 e0134=VS69 e0135=VS70 e0136=VS71 e0137=VS72 e0138=VS73 e0139=VS74 e013a=VS75 e013b=VS76 e013c=VS77 e013d=VS78 e013e=VS79 e013f=VS80 e0140=VS81 e0141=VS82 e0142=VS83 e0143=VS84 e0144=VS85 e0145=VS86 e0146=VS87 e0147=VS88 e0148=VS89 e0149=VS90 e014a=VS91 e014b=VS92 e014c=VS93 e014d=VS94 e014e=VS95 e014f=VS96 e0150=VS97 e0151=VS98 e0152=VS99 e0153=VS100 e0154=VS101 e0155=VS102 e0156=VS103 e0157=VS104 e0158=VS105 e0159=VS106 e015a=VS107 e015b=VS108 e015c=VS109 e015d=VS110 e015e=VS111 e015f=VS112 e0160=VS113 e0161=VS114 e0162=VS115 e0163=VS116 e0164=VS117 e0165=VS118 e0166=VS119 e0167=VS120 e0168=VS121 e0169=VS122 e016a=VS123 e016b=VS124 e016c=VS125 e016d=VS126 e016e=VS127 e016f=VS128 e0170=VS129 e0171=VS130 e0172=VS131 e0173=VS132 e0174=VS133 e0175=VS134 e0176=VS135 e0177=VS136 e0178=VS137 e0179=VS138 e017a=VS139 e017b=VS140 e017c=VS141 e017d=VS142 e017e=VS143 e017f=VS144 e0180=VS145 e0181=VS146 e0182=VS147 e0183=VS148 e0184=VS149 e0185=VS150 e0186=VS151 e0187=VS152 e0188=VS153 e0189=VS154 e018a=VS155 e018b=VS156 e018c=VS157 e018d=VS158 e018e=VS159 e018f=VS160 e0190=VS161 e0191=VS162 e0192=VS163 e0193=VS164 e0194=VS165 e0195=VS166 e0196=VS167 e0197=VS168 e0198=VS169 e0199=VS170 e019a=VS171 e019b=VS172 e019c=VS173 e019d=VS174 e019e=VS175 e019f=VS176 e01a0=VS177 e01a1=VS178 e01a2=VS179 e01a3=VS180 e01a4=VS181 e01a5=VS182 e01a6=VS183 e01a7=VS184 e01a8=VS185 e01a9=VS186 e01aa=VS187 e01ab=VS188 e01ac=VS189 e01ad=VS190 e01ae=VS191 e01af=VS192 e01b0=VS193 e01b1=VS194 e01b2=VS195 e01b3=VS196 e01b4=VS197 e01b5=VS198 e01b6=VS199 e01b7=VS200 e01b8=VS201 e01b9=VS202 e01ba=VS203 e01bb=VS204 e01bc=VS205 e01bd=VS206 e01be=VS207 e01bf=VS208 e01c0=VS209 e01c1=VS210 e01c2=VS211 " ++
  "e01c3=VS212 e01c4=VS213 e01c5=VS214 e01c6=VS215 e01c7=VS216 e01c8=VS217 e01c9=VS218 e01ca=VS219 e01cb=VS220 e01cc=VS221 e01cd=VS222 e01ce=VS223 e01cf=VS224 e01d0=VS225 e01d1=VS226 e01d2=VS227 e01d3=VS228 e01d4=VS229 e01d5=VS230 e01d6=VS231 e01d7=VS232 e01d8=VS233 e01d9=VS234 e01da=VS235 e01db=VS236 e01dc=VS237 e01dd=VS238 e01de=VS239 e01df=VS240 e01e0=VS241 e01e1=VS242 e01e2=VS243 e01e3=VS244 e01e4=VS245 e01e5=VS246 e01e6=VS247 e01e7=VS248 e01e8=VS249 e01e9=VS250 e01ea=VS251 e01eb=VS252 e01ec=VS253 e01ed=VS254 e01ee=VS255 e01ef=VS256"

end StubDoctest.Text
