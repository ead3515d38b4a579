import Frontend.Token.CharacterName.Run

/-!
# Names of South Asian letters

The names of the letters, vowel signs and numerals of the scripts of South Asia.
-/

namespace Frontend.CharacterName

/-- The runs of these names, in the order of the code points. -/
def southAsian : List Run := [
  ⟨0x780, "THAANA LETTER ", [
    "HAA;SHAVIYANI;NOONU;RAA;BAA;LHAVIYANI;KAAFU;ALIFU;VAAVU;MEEMU;FAAFU;DHAALU;THAA;LAAMU",
    "GAAFU;GNAVIYANI;SEENU;DAVIYANI;ZAVIYANI;TAVIYANI;YAA;PAVIYANI;JAVIYANI;CHAVIYANI;TTAA;HHAA",
    "KHAA;THAALU;ZAA;SHEENU;SAADHU;DAADHU;TO;ZO;AINU;GHAINU;QAAFU;WAAVU"]⟩,
  ⟨0x7A6, "THAANA ", [
    "ABAFILI;AABAAFILI;IBIFILI;EEBEEFILI;UBUFILI;OOBOOFILI;EBEFILI;EYBEYFILI;OBOFILI;OABOAFILI",
    "SUKUN;LETTER NAA"]⟩,
  ⟨0x900, "DEVANAGARI SIGN ", ["INVERTED CANDRABINDU;CANDRABINDU;ANUSVARA;VISARGA"]⟩,
  ⟨0x904, "DEVANAGARI LETTER ", [
    "SHORT A;A;AA;I;II;U;UU;VOCALIC R;VOCALIC L;CANDRA E;SHORT E;E;AI;CANDRA O;SHORT O;O;AU;KA",
    "KHA;GA;GHA;NGA;CA;CHA;JA;JHA;NYA;TTA;TTHA;DDA;DDHA;NNA;TA;THA;DA;DHA;NA;NNNA;PA;PHA;BA;BHA",
    "MA;YA;RA;RRA;LA;LLA;LLLA;VA;SHA;SSA;SA;HA"]⟩,
  ⟨0x93A, "DEVANAGARI ", ["VOWEL SIGN OE;VOWEL SIGN OOE;SIGN NUKTA;SIGN AVAGRAHA"]⟩,
  ⟨0x93E, "DEVANAGARI VOWEL SIGN ", [
    "AA;I;II;U;UU;VOCALIC R;VOCALIC RR;CANDRA E;SHORT E;E;AI;CANDRA O;SHORT O;O;AU"]⟩,
  ⟨0x94D, "DEVANAGARI ", [
    "SIGN VIRAMA;VOWEL SIGN PRISHTHAMATRA E;VOWEL SIGN AW;OM;STRESS SIGN UDATTA",
    "STRESS SIGN ANUDATTA;GRAVE ACCENT;ACUTE ACCENT;VOWEL SIGN CANDRA LONG E;VOWEL SIGN UE",
    "VOWEL SIGN UUE;LETTER QA;LETTER KHHA;LETTER GHHA;LETTER ZA;LETTER DDDHA;LETTER RHA",
    "LETTER FA;LETTER YYA;LETTER VOCALIC RR;LETTER VOCALIC LL;VOWEL SIGN VOCALIC L",
    "VOWEL SIGN VOCALIC LL;DANDA;DOUBLE DANDA;DIGIT ZERO;DIGIT ONE;DIGIT TWO;DIGIT THREE",
    "DIGIT FOUR;DIGIT FIVE;DIGIT SIX;DIGIT SEVEN;DIGIT EIGHT;DIGIT NINE;ABBREVIATION SIGN",
    "SIGN HIGH SPACING DOT"]⟩,
  ⟨0x972, "DEVANAGARI LETTER ", [
    "CANDRA A;OE;OOE;AW;UE;UUE;MARWARI DDA;ZHA;HEAVY YA;GGA;JJA;GLOTTAL STOP;DDDA;BBA"]⟩,
  ⟨0x980, "BENGALI ", ["ANJI;SIGN CANDRABINDU;SIGN ANUSVARA;SIGN VISARGA"]⟩,
  ⟨0x985, "BENGALI LETTER ", [
    "A;AA;I;II;U;UU;VOCALIC R;VOCALIC L;;;E;AI;;;O;AU;KA;KHA;GA;GHA;NGA;CA;CHA;JA;JHA;NYA;TTA",
    "TTHA;DDA;DDHA;NNA;TA;THA;DA;DHA;NA;;PA;PHA;BA;BHA;MA;YA;RA;;LA;;;;SHA;SSA;SA;HA"]⟩,
  ⟨0x9BC, "BENGALI SIGN ", ["NUKTA;AVAGRAHA"]⟩,
  ⟨0x9BE, "BENGALI VOWEL SIGN ", ["AA;I;II;U;UU;VOCALIC R;VOCALIC RR;;;E;AI;;;O;AU"]⟩,
  ⟨0x9CD, "BENGALI ", [
    "SIGN VIRAMA;LETTER KHANDA TA;;;;;;;;;AU LENGTH MARK;;;;;LETTER RRA;LETTER RHA;;LETTER YYA",
    "LETTER VOCALIC RR;LETTER VOCALIC LL;VOWEL SIGN VOCALIC L;VOWEL SIGN VOCALIC LL;;",
    "DIGIT ZERO;DIGIT ONE;DIGIT TWO;DIGIT THREE;DIGIT FOUR;DIGIT FIVE;DIGIT SIX;DIGIT SEVEN",
    "DIGIT EIGHT;DIGIT NINE;LETTER RA WITH MIDDLE DIAGONAL;LETTER RA WITH LOWER DIAGONAL",
    "RUPEE MARK;RUPEE SIGN;CURRENCY NUMERATOR ONE;CURRENCY NUMERATOR TWO",
    "CURRENCY NUMERATOR THREE;CURRENCY NUMERATOR FOUR",
    "CURRENCY NUMERATOR ONE LESS THAN THE DENOMINATOR;CURRENCY DENOMINATOR SIXTEEN;ISSHAR",
    "GANDA MARK;LETTER VEDIC ANUSVARA;ABBREVIATION SIGN;SANDHI MARK"]⟩,
  ⟨0xA01, "GURMUKHI SIGN ", ["ADAK BINDI;BINDI;VISARGA"]⟩,
  ⟨0xA05, "GURMUKHI LETTER ", [
    "A;AA;I;II;U;UU;;;;;EE;AI;;;OO;AU;KA;KHA;GA;GHA;NGA;CA;CHA;JA;JHA;NYA;TTA;TTHA;DDA;DDHA;NNA",
    "TA;THA;DA;DHA;NA;;PA;PHA;BA;BHA;MA;YA;RA;;LA;LLA;;VA;SHA;;SA;HA"]⟩,
  ⟨0xA3C, "", ["GURMUKHI SIGN NUKTA"]⟩,
  ⟨0xA3E, "GURMUKHI VOWEL SIGN ", ["AA;I;II;U;UU;;;;;EE;AI;;;OO;AU"]⟩,
  ⟨0xA4D, "GURMUKHI ", [
    "SIGN VIRAMA;;;;SIGN UDAAT;;;;;;;;LETTER KHHA;LETTER GHHA;LETTER ZA;LETTER RRA;;LETTER FA;;",
    ";;;;;DIGIT ZERO;DIGIT ONE;DIGIT TWO;DIGIT THREE;DIGIT FOUR;DIGIT FIVE;DIGIT SIX",
    "DIGIT SEVEN;DIGIT EIGHT;DIGIT NINE;TIPPI;ADDAK;IRI;URA;EK ONKAR;SIGN YAKASH",
    "ABBREVIATION SIGN"]⟩,
  ⟨0xA81, "GUJARATI ", [
    "SIGN CANDRABINDU;SIGN ANUSVARA;SIGN VISARGA;;LETTER A;LETTER AA;LETTER I;LETTER II",
    "LETTER U;LETTER UU;LETTER VOCALIC R;LETTER VOCALIC L;VOWEL CANDRA E;;LETTER E;LETTER AI",
    "VOWEL CANDRA O"]⟩,
  ⟨0xA93, "GUJARATI LETTER ", [
    "O;AU;KA;KHA;GA;GHA;NGA;CA;CHA;JA;JHA;NYA;TTA;TTHA;DDA;DDHA;NNA;TA;THA;DA;DHA;NA;;PA;PHA;BA",
    "BHA;MA;YA;RA;;LA;LLA;;VA;SHA;SSA;SA;HA"]⟩,
  ⟨0xABC, "GUJARATI SIGN ", ["NUKTA;AVAGRAHA"]⟩,
  ⟨0xABE, "GUJARATI VOWEL SIGN ", [
    "AA;I;II;U;UU;VOCALIC R;VOCALIC RR;CANDRA E;;E;AI;CANDRA O;;O;AU"]⟩,
  ⟨0xACD, "GUJARATI ", ["SIGN VIRAMA;;;OM"]⟩,
  ⟨0xAE0, "GUJARATI ", [
    "LETTER VOCALIC RR;LETTER VOCALIC LL;VOWEL SIGN VOCALIC L;VOWEL SIGN VOCALIC LL;;",
    "DIGIT ZERO;DIGIT ONE;DIGIT TWO;DIGIT THREE;DIGIT FOUR;DIGIT FIVE;DIGIT SIX;DIGIT SEVEN",
    "DIGIT EIGHT;DIGIT NINE;ABBREVIATION SIGN;RUPEE SIGN;;;;;;;;LETTER ZHA;SIGN SUKUN",
    "SIGN SHADDA;SIGN MADDAH;SIGN THREE-DOT NUKTA ABOVE;SIGN CIRCLE NUKTA ABOVE",
    "SIGN TWO-CIRCLE NUKTA ABOVE"]⟩,
  ⟨0xB01, "ORIYA SIGN ", ["CANDRABINDU;ANUSVARA;VISARGA"]⟩,
  ⟨0xB05, "ORIYA LETTER ", [
    "A;AA;I;II;U;UU;VOCALIC R;VOCALIC L;;;E;AI;;;O;AU;KA;KHA;GA;GHA;NGA;CA;CHA;JA;JHA;NYA;TTA",
    "TTHA;DDA;DDHA;NNA;TA;THA;DA;DHA;NA;;PA;PHA;BA;BHA;MA;YA;RA;;LA;LLA;;VA;SHA;SSA;SA;HA"]⟩,
  ⟨0xB3C, "ORIYA SIGN ", ["NUKTA;AVAGRAHA"]⟩,
  ⟨0xB3E, "ORIYA VOWEL SIGN ", ["AA;I;II;U;UU;VOCALIC R;VOCALIC RR;;;E;AI;;;O;AU"]⟩,
  ⟨0xB4D, "ORIYA ", [
    "SIGN VIRAMA;;;;;;;;SIGN OVERLINE;AI LENGTH MARK;AU LENGTH MARK;;;;;LETTER RRA;LETTER RHA;",
    "LETTER YYA;LETTER VOCALIC RR;LETTER VOCALIC LL;VOWEL SIGN VOCALIC L;VOWEL SIGN VOCALIC LL;",
    ";DIGIT ZERO;DIGIT ONE;DIGIT TWO;DIGIT THREE;DIGIT FOUR;DIGIT FIVE;DIGIT SIX;DIGIT SEVEN",
    "DIGIT EIGHT;DIGIT NINE;ISSHAR;LETTER WA"]⟩,
  ⟨0xB72, "ORIYA FRACTION ", [
    "ONE QUARTER;ONE HALF;THREE QUARTERS;ONE SIXTEENTH;ONE EIGHTH;THREE SIXTEENTHS"]⟩,
  ⟨0xB82, "TAMIL SIGN ", ["ANUSVARA;VISARGA"]⟩,
  ⟨0xB85, "TAMIL LETTER ", [
    "A;AA;I;II;U;UU;;;;E;EE;AI;;O;OO;AU;KA;;;;NGA;CA;;JA;;NYA;TTA;;;;NNA;TA;;;;NA;NNNA;PA;;;;MA",
    "YA;RA;RRA;LA;LLA;LLLA;VA;SHA;SSA;SA;HA"]⟩,
  ⟨0xBBE, "TAMIL VOWEL SIGN ", ["AA;I;II;U;UU;;;;E;EE;AI;;O;OO;AU"]⟩,
  ⟨0xBCD, "TAMIL ", ["SIGN VIRAMA;;;OM;;;;;;;AU LENGTH MARK"]⟩,
  ⟨0xBE6, "TAMIL DIGIT ", ["ZERO;ONE;TWO;THREE;FOUR;FIVE;SIX;SEVEN;EIGHT;NINE"]⟩,
  ⟨0xBF0, "TAMIL ", [
    "NUMBER TEN;NUMBER ONE HUNDRED;NUMBER ONE THOUSAND;DAY SIGN;MONTH SIGN;YEAR SIGN;DEBIT SIGN",
    "CREDIT SIGN;AS ABOVE SIGN;RUPEE SIGN;NUMBER SIGN"]⟩,
  ⟨0xC00, "TELUGU SIGN ", [
    "COMBINING CANDRABINDU ABOVE;CANDRABINDU;ANUSVARA;VISARGA;COMBINING ANUSVARA ABOVE"]⟩,
  ⟨0xC05, "TELUGU LETTER ", [
    "A;AA;I;II;U;UU;VOCALIC R;VOCALIC L;;E;EE;AI;;O;OO;AU;KA;KHA;GA;GHA;NGA;CA;CHA;JA;JHA;NYA",
    "TTA;TTHA;DDA;DDHA;NNA;TA;THA;DA;DHA;NA;;PA;PHA;BA;BHA;MA;YA;RA;RRA;LA;LLA;LLLA;VA;SHA;SSA",
    "SA;HA"]⟩,
  ⟨0xC3C, "TELUGU SIGN ", ["NUKTA;AVAGRAHA"]⟩,
  ⟨0xC3E, "TELUGU VOWEL SIGN ", ["AA;I;II;U;UU;VOCALIC R;VOCALIC RR;;E;EE;AI;;O;OO;AU"]⟩,
  ⟨0xC4D, "TELUGU ", [
    "SIGN VIRAMA;;;;;;;;LENGTH MARK;AI LENGTH MARK;;LETTER TSA;LETTER DZA;LETTER RRRA;;",
    "LETTER NAKAARA POLLU;;;LETTER VOCALIC RR;LETTER VOCALIC LL;VOWEL SIGN VOCALIC L",
    "VOWEL SIGN VOCALIC LL;;;DIGIT ZERO;DIGIT ONE;DIGIT TWO;DIGIT THREE;DIGIT FOUR;DIGIT FIVE",
    "DIGIT SIX;DIGIT SEVEN;DIGIT EIGHT;DIGIT NINE;;;;;;;;SIGN SIDDHAM"]⟩,
  ⟨0xC78, "TELUGU FRACTION DIGIT ", [
    "ZERO FOR ODD POWERS OF FOUR;ONE FOR ODD POWERS OF FOUR;TWO FOR ODD POWERS OF FOUR",
    "THREE FOR ODD POWERS OF FOUR;ONE FOR EVEN POWERS OF FOUR;TWO FOR EVEN POWERS OF FOUR",
    "THREE FOR EVEN POWERS OF FOUR"]⟩,
  ⟨0xC7F, "", ["TELUGU SIGN TUUMU"]⟩,
  ⟨0xC80, "KANNADA SIGN ", ["SPACING CANDRABINDU;CANDRABINDU;ANUSVARA;VISARGA;SIDDHAM"]⟩,
  ⟨0xC85, "KANNADA LETTER ", [
    "A;AA;I;II;U;UU;VOCALIC R;VOCALIC L;;E;EE;AI;;O;OO;AU;KA;KHA;GA;GHA;NGA;CA;CHA;JA;JHA;NYA",
    "TTA;TTHA;DDA;DDHA;NNA;TA;THA;DA;DHA;NA;;PA;PHA;BA;BHA;MA;YA;RA;RRA;LA;LLA;;VA;SHA;SSA;SA",
    "HA"]⟩,
  ⟨0xCBC, "KANNADA SIGN ", ["NUKTA;AVAGRAHA"]⟩,
  ⟨0xCBE, "KANNADA VOWEL SIGN ", ["AA;I;II;U;UU;VOCALIC R;VOCALIC RR;;E;EE;AI;;O;OO;AU"]⟩,
  ⟨0xCCD, "KANNADA ", [
    "SIGN VIRAMA;;;;;;;;LENGTH MARK;AI LENGTH MARK;;;;;;;LETTER NAKAARA POLLU;LETTER FA;",
    "LETTER VOCALIC RR;LETTER VOCALIC LL;VOWEL SIGN VOCALIC L;VOWEL SIGN VOCALIC LL;;",
    "DIGIT ZERO;DIGIT ONE;DIGIT TWO;DIGIT THREE;DIGIT FOUR;DIGIT FIVE;DIGIT SIX;DIGIT SEVEN",
    "DIGIT EIGHT;DIGIT NINE;;SIGN JIHVAMULIYA;SIGN UPADHMANIYA",
    "SIGN COMBINING ANUSVARA ABOVE RIGHT"]⟩,
  ⟨0xD00, "MALAYALAM SIGN ", ["COMBINING ANUSVARA ABOVE;CANDRABINDU;ANUSVARA;VISARGA"]⟩,
  ⟨0xD04, "MALAYALAM LETTER ", [
    "VEDIC ANUSVARA;A;AA;I;II;U;UU;VOCALIC R;VOCALIC L;;E;EE;AI;;O;OO;AU;KA;KHA;GA;GHA;NGA;CA",
    "CHA;JA;JHA;NYA;TTA;TTHA;DDA;DDHA;NNA;TA;THA;DA;DHA;NA;NNNA;PA;PHA;BA;BHA;MA;YA;RA;RRA;LA",
    "LLA;LLLA;VA;SHA;SSA;SA;HA;TTTA"]⟩,
  ⟨0xD3B, "MALAYALAM SIGN ", ["VERTICAL BAR VIRAMA;CIRCULAR VIRAMA;AVAGRAHA"]⟩,
  ⟨0xD3E, "MALAYALAM VOWEL SIGN ", ["AA;I;II;U;UU;VOCALIC R;VOCALIC RR;;E;EE;AI;;O;OO;AU"]⟩,
  ⟨0xD4D, "MALAYALAM ", [
    "SIGN VIRAMA;LETTER DOT REPH;SIGN PARA;;;;;LETTER CHILLU M;LETTER CHILLU Y",
    "LETTER CHILLU LLL;AU LENGTH MARK;FRACTION ONE ONE-HUNDRED-AND-SIXTIETH",
    "FRACTION ONE FORTIETH;FRACTION THREE EIGHTIETHS;FRACTION ONE TWENTIETH;FRACTION ONE TENTH",
    "FRACTION THREE TWENTIETHS;FRACTION ONE FIFTH;LETTER ARCHAIC II;LETTER VOCALIC RR",
    "LETTER VOCALIC LL;VOWEL SIGN VOCALIC L;VOWEL SIGN VOCALIC LL;;;DIGIT ZERO;DIGIT ONE",
    "DIGIT TWO;DIGIT THREE;DIGIT FOUR;DIGIT FIVE;DIGIT SIX;DIGIT SEVEN;DIGIT EIGHT;DIGIT NINE",
    "NUMBER TEN;NUMBER ONE HUNDRED;NUMBER ONE THOUSAND;FRACTION ONE QUARTER;FRACTION ONE HALF",
    "FRACTION THREE QUARTERS;FRACTION ONE SIXTEENTH;FRACTION ONE EIGHTH",
    "FRACTION THREE SIXTEENTHS;DATE MARK"]⟩,
  ⟨0xD7A, "MALAYALAM LETTER CHILLU ", ["NN;N;RR;L;LL;K"]⟩,
  ⟨0xD81, "SINHALA SIGN ", ["CANDRABINDU;ANUSVARAYA;VISARGAYA"]⟩,
  ⟨0xD85, "SINHALA LETTER ", [
    "AYANNA;AAYANNA;AEYANNA;AEEYANNA;IYANNA;IIYANNA;UYANNA;UUYANNA;IRUYANNA;IRUUYANNA;ILUYANNA",
    "ILUUYANNA;EYANNA;EEYANNA;AIYANNA;OYANNA;OOYANNA;AUYANNA;;;;ALPAPRAANA KAYANNA",
    "MAHAAPRAANA KAYANNA;ALPAPRAANA GAYANNA;MAHAAPRAANA GAYANNA;KANTAJA NAASIKYAYA",
    "SANYAKA GAYANNA;ALPAPRAANA CAYANNA;MAHAAPRAANA CAYANNA;ALPAPRAANA JAYANNA",
    "MAHAAPRAANA JAYANNA;TAALUJA NAASIKYAYA;TAALUJA SANYOOGA NAAKSIKYAYA;SANYAKA JAYANNA",
    "ALPAPRAANA TTAYANNA;MAHAAPRAANA TTAYANNA;ALPAPRAANA DDAYANNA;MAHAAPRAANA DDAYANNA",
    "MUURDHAJA NAYANNA;SANYAKA DDAYANNA;ALPAPRAANA TAYANNA;MAHAAPRAANA TAYANNA",
    "ALPAPRAANA DAYANNA;MAHAAPRAANA DAYANNA;DANTAJA NAYANNA;;SANYAKA DAYANNA;ALPAPRAANA PAYANNA",
    "MAHAAPRAANA PAYANNA;ALPAPRAANA BAYANNA;MAHAAPRAANA BAYANNA;MAYANNA;AMBA BAYANNA;YAYANNA",
    "RAYANNA;;DANTAJA LAYANNA;;;VAYANNA;TAALUJA SAYANNA;MUURDHAJA SAYANNA;DANTAJA SAYANNA",
    "HAYANNA;MUURDHAJA LAYANNA;FAYANNA"]⟩,
  ⟨0xDCA, "", ["SINHALA SIGN AL-LAKUNA"]⟩,
  ⟨0xDCF, "SINHALA VOWEL SIGN ", [
    "AELA-PILLA;KETTI AEDA-PILLA;DIGA AEDA-PILLA;KETTI IS-PILLA;DIGA IS-PILLA;KETTI PAA-PILLA;",
    "DIGA PAA-PILLA;;GAETTA-PILLA;KOMBUVA;DIGA KOMBUVA;KOMBU DEKA;KOMBUVA HAA AELA-PILLA",
    "KOMBUVA HAA DIGA AELA-PILLA;KOMBUVA HAA GAYANUKITTA;GAYANUKITTA"]⟩,
  ⟨0xDE6, "SINHALA LITH DIGIT ", ["ZERO;ONE;TWO;THREE;FOUR;FIVE;SIX;SEVEN;EIGHT;NINE"]⟩,
  ⟨0xDF2, "SINHALA ", [
    "VOWEL SIGN DIGA GAETTA-PILLA;VOWEL SIGN DIGA GAYANUKITTA;PUNCTUATION KUNDDALIYA"]⟩,
  ⟨0x1900, "", ["LIMBU VOWEL-CARRIER LETTER"]⟩,
  ⟨0x1901, "LIMBU LETTER ", [
    "KA;KHA;GA;GHA;NGA;CA;CHA;JA;JHA;YAN;TA;THA;DA;DHA;NA;PA;PHA;BA;BHA;MA;YA;RA;LA;WA;SHA;SSA",
    "SA;HA;GYAN;TRA"]⟩,
  ⟨0x1920, "LIMBU VOWEL SIGN ", ["A;I;U;EE;AI;OO;AU;E;O"]⟩,
  ⟨0x1929, "LIMBU SUBJOINED LETTER ", ["YA;RA;WA"]⟩,
  ⟨0x1930, "LIMBU SMALL LETTER ", ["KA;NGA;ANUSVARA;TA;NA;PA;MA;RA;LA"]⟩,
  ⟨0x1939, "LIMBU ", [
    "SIGN MUKPHRENG;SIGN KEMPHRENG;SIGN SA-I;;;;;SIGN LOO;;;;EXCLAMATION MARK;QUESTION MARK"]⟩,
  ⟨0x1946, "LIMBU DIGIT ", ["ZERO;ONE;TWO;THREE;FOUR;FIVE;SIX;SEVEN;EIGHT;NINE"]⟩,
  ⟨0x1C00, "LEPCHA LETTER ", [
    "KA;KLA;KHA;GA;GLA;NGA;CA;CHA;JA;NYA;TA;THA;DA;NA;PA;PLA;PHA;FA;FLA;BA;BLA;MA;MLA;TSA;TSHA",
    "DZA;YA;RA;LA;HA;HLA;VA;SA;SHA;WA;A"]⟩,
  ⟨0x1C24, "LEPCHA SUBJOINED LETTER ", ["YA;RA"]⟩,
  ⟨0x1C26, "LEPCHA VOWEL SIGN ", ["AA;I;O;OO;U;UU;E"]⟩,
  ⟨0x1C2D, "LEPCHA CONSONANT SIGN ", ["K;M;L;N;P;R;T;NYIN-DO;KANG"]⟩,
  ⟨0x1C36, "LEPCHA SIGN ", ["RAN;NUKTA"]⟩,
  ⟨0x1C3B, "LEPCHA PUNCTUATION ", ["TA-ROL;NYET THYOOM TA-ROL;CER-WA;TSHOOK CER-WA;TSHOOK"]⟩,
  ⟨0x1C40, "LEPCHA DIGIT ", ["ZERO;ONE;TWO;THREE;FOUR;FIVE;SIX;SEVEN;EIGHT;NINE"]⟩,
  ⟨0x1C4D, "LEPCHA LETTER ", ["TTA;TTHA;DDA"]⟩,
  ⟨0x1C50, "OL CHIKI DIGIT ", ["ZERO;ONE;TWO;THREE;FOUR;FIVE;SIX;SEVEN;EIGHT;NINE"]⟩,
  ⟨0x1C5A, "OL CHIKI LETTER ", [
    "LA;AT;AG;ANG;AL;LAA;AAK;AAJ;AAM;AAW;LI;IS;IH;INY;IR;LU;UC;UD;UNN;UY;LE;EP;EDD;EN;ERR;LO",
    "OTT;OB;OV;OH"]⟩,
  ⟨0x1C78, "OL CHIKI ", [
    "MU TTUDDAG;GAAHLAA TTUDDAAG;MU-GAAHLAA TTUDDAAG;RELAA;PHAARKAA;AHAD;PUNCTUATION MUCAAD",
    "PUNCTUATION DOUBLE MUCAAD"]⟩,
  ⟨0x1CD0, "VEDIC ", [
    "TONE KARSHANA;TONE SHARA;TONE PRENKHA;SIGN NIHSHVASA;SIGN YAJURVEDIC MIDLINE SVARITA"]⟩,
  ⟨0x1CD5, "VEDIC TONE ", [
    "YAJURVEDIC AGGRAVATED INDEPENDENT SVARITA;YAJURVEDIC INDEPENDENT SVARITA",
    "YAJURVEDIC KATHAKA INDEPENDENT SVARITA;CANDRA BELOW",
    "YAJURVEDIC KATHAKA INDEPENDENT SVARITA SCHROEDER;DOUBLE SVARITA;TRIPLE SVARITA",
    "KATHAKA ANUDATTA;DOT BELOW;TWO DOTS BELOW;THREE DOTS BELOW",
    "RIGVEDIC KASHMIRI INDEPENDENT SVARITA;ATHARVAVEDIC INDEPENDENT SVARITA"]⟩,
  ⟨0x1CE2, "VEDIC SIGN ", [
    "VISARGA SVARITA;VISARGA UDATTA;REVERSED VISARGA UDATTA;VISARGA ANUDATTA",
    "REVERSED VISARGA ANUDATTA;VISARGA UDATTA WITH TAIL;VISARGA ANUDATTA WITH TAIL",
    "ANUSVARA ANTARGOMUKHA;ANUSVARA BAHIRGOMUKHA;ANUSVARA VAMAGOMUKHA",
    "ANUSVARA VAMAGOMUKHA WITH TAIL;TIRYAK;HEXIFORM LONG ANUSVARA;LONG ANUSVARA",
    "RTHANG LONG ANUSVARA;ANUSVARA UBHAYATO MUKHA;ARDHAVISARGA;ROTATED ARDHAVISARGA"]⟩,
  ⟨0x1CF4, "VEDIC ", [
    "TONE CANDRA ABOVE;SIGN JIHVAMULIYA;SIGN UPADHMANIYA;SIGN ATIKRAMA;TONE RING ABOVE",
    "TONE DOUBLE RING ABOVE;SIGN DOUBLE ANUSVARA ANTARGOMUKHA"]⟩,
  ⟨0xA800, "SYLOTI NAGRI ", [
    "LETTER A;LETTER I;SIGN DVISVARA;LETTER U;LETTER E;LETTER O;SIGN HASANTA;LETTER KO",
    "LETTER KHO;LETTER GO;LETTER GHO;SIGN ANUSVARA"]⟩,
  ⟨0xA80C, "SYLOTI NAGRI LETTER ", [
    "CO;CHO;JO;JHO;TTO;TTHO;DDO;DDHO;TO;THO;DO;DHO;NO;PO;PHO;BO;BHO;MO;RO;LO;RRO;SO;HO"]⟩,
  ⟨0xA823, "SYLOTI NAGRI ", [
    "VOWEL SIGN A;VOWEL SIGN I;VOWEL SIGN U;VOWEL SIGN E;VOWEL SIGN OO;POETRY MARK-1",
    "POETRY MARK-2;POETRY MARK-3;POETRY MARK-4;SIGN ALTERNATE HASANTA"]⟩,
  ⟨0xA830, "NORTH INDIC ", [
    "FRACTION ONE QUARTER;FRACTION ONE HALF;FRACTION THREE QUARTERS;FRACTION ONE SIXTEENTH",
    "FRACTION ONE EIGHTH;FRACTION THREE SIXTEENTHS;QUARTER MARK;PLACEHOLDER MARK;RUPEE MARK",
    "QUANTITY MARK"]⟩,
  ⟨0xA880, "SAURASHTRA SIGN ", ["ANUSVARA;VISARGA"]⟩,
  ⟨0xA882, "SAURASHTRA LETTER ", [
    "A;AA;I;II;U;UU;VOCALIC R;VOCALIC RR;VOCALIC L;VOCALIC LL;E;EE;AI;O;OO;AU;KA;KHA;GA;GHA;NGA",
    "CA;CHA;JA;JHA;NYA;TTA;TTHA;DDA;DDHA;NNA;TA;THA;DA;DHA;NA;PA;PHA;BA;BHA;MA;YA;RA;LA;VA;SHA",
    "SSA;SA;HA;LLA"]⟩,
  ⟨0xA8B4, "", ["SAURASHTRA CONSONANT SIGN HAARU"]⟩,
  ⟨0xA8B5, "SAURASHTRA VOWEL SIGN ", [
    "AA;I;II;U;UU;VOCALIC R;VOCALIC RR;VOCALIC L;VOCALIC LL;E;EE;AI;O;OO;AU"]⟩,
  ⟨0xA8C4, "SAURASHTRA ", ["SIGN VIRAMA;SIGN CANDRABINDU;;;;;;;;;DANDA;DOUBLE DANDA"]⟩,
  ⟨0xA8D0, "SAURASHTRA DIGIT ", ["ZERO;ONE;TWO;THREE;FOUR;FIVE;SIX;SEVEN;EIGHT;NINE"]⟩,
  ⟨0xA8E0, "COMBINING DEVANAGARI ", [
    "DIGIT ZERO;DIGIT ONE;DIGIT TWO;DIGIT THREE;DIGIT FOUR;DIGIT FIVE;DIGIT SIX;DIGIT SEVEN",
    "DIGIT EIGHT;DIGIT NINE;LETTER A;LETTER U;LETTER KA;LETTER NA;LETTER PA;LETTER RA;LETTER VI",
    "SIGN AVAGRAHA"]⟩,
  ⟨0xA8F2, "DEVANAGARI ", [
    "SIGN SPACING CANDRABINDU;SIGN CANDRABINDU VIRAMA;SIGN DOUBLE CANDRABINDU VIRAMA",
    "SIGN CANDRABINDU TWO;SIGN CANDRABINDU THREE;SIGN CANDRABINDU AVAGRAHA;SIGN PUSHPIKA",
    "GAP FILLER;CARET;HEADSTROKE;SIGN SIDDHAM;JAIN OM;LETTER AY;VOWEL SIGN AY"]⟩,
  ⟨0xAAE0, "MEETEI MAYEK LETTER ", ["E;O;CHA;NYA;TTA;TTHA;DDA;DDHA;NNA;SHA;SSA"]⟩,
  ⟨0xAAEB, "MEETEI MAYEK ", [
    "VOWEL SIGN II;VOWEL SIGN UU;VOWEL SIGN AAI;VOWEL SIGN AU;VOWEL SIGN AAU;CHEIKHAN",
    "AHANG KHUDAM;ANJI;SYLLABLE REPETITION MARK;WORD REPETITION MARK;VOWEL SIGN VISARGA;VIRAMA"]⟩,
  ⟨0xABC0, "MEETEI MAYEK LETTER ", [
    "KOK;SAM;LAI;MIT;PA;NA;CHIL;TIL;KHOU;NGOU;THOU;WAI;YANG;HUK;UN;I;PHAM;ATIYA;GOK;JHAM;RAI;BA",
    "JIL;DIL;GHOU;DHOU;BHAM;KOK LONSUM;LAI LONSUM;MIT LONSUM;PA LONSUM;NA LONSUM;TIL LONSUM",
    "NGOU LONSUM;I LONSUM"]⟩,
  ⟨0xABE3, "MEETEI MAYEK VOWEL SIGN ", ["ONAP;INAP;ANAP;YENAP;SOUNAP;UNAP;CHEINAP;NUNG"]⟩,
  ⟨0xABEB, "MEETEI MAYEK ", ["CHEIKHEI;LUM IYEK;APUN IYEK"]⟩,
  ⟨0xABF0, "MEETEI MAYEK DIGIT ", ["ZERO;ONE;TWO;THREE;FOUR;FIVE;SIX;SEVEN;EIGHT;NINE"]⟩,
  ⟨0x10A00, "KHAROSHTHI ", [
    "LETTER A;VOWEL SIGN I;VOWEL SIGN U;VOWEL SIGN VOCALIC R;;VOWEL SIGN E;VOWEL SIGN O;;;;;",
    "VOWEL LENGTH MARK;SIGN DOUBLE RING BELOW;SIGN ANUSVARA;SIGN VISARGA"]⟩,
  ⟨0x10A10, "KHAROSHTHI LETTER ", [
    "KA;KHA;GA;GHA;;CA;CHA;JA;;NYA;TTA;TTHA;DDA;DDHA;NNA;TA;THA;DA;DHA;NA;PA;PHA;BA;BHA;MA;YA",
    "RA;LA;VA;SHA;SSA;SA;ZA;HA;KKA;TTTHA;TTTA;VHA"]⟩,
  ⟨0x10A38, "KHAROSHTHI ", [
    "SIGN BAR ABOVE;SIGN CAUDA;SIGN DOT BELOW;;;;;VIRAMA;DIGIT ONE;DIGIT TWO;DIGIT THREE",
    "DIGIT FOUR;NUMBER TEN;NUMBER TWENTY;NUMBER ONE HUNDRED;NUMBER ONE THOUSAND",
    "FRACTION ONE HALF"]⟩,
  ⟨0x10A50, "KHAROSHTHI PUNCTUATION ", [
    "DOT;SMALL CIRCLE;CIRCLE;CRESCENT BAR;MANGALAM;LOTUS;DANDA;DOUBLE DANDA;LINES"]⟩,
  ⟨0x11000, "BRAHMI SIGN ", ["CANDRABINDU;ANUSVARA;VISARGA;JIHVAMULIYA;UPADHMANIYA"]⟩,
  ⟨0x11005, "BRAHMI LETTER ", [
    "A;AA;I;II;U;UU;VOCALIC R;VOCALIC RR;VOCALIC L;VOCALIC LL;E;AI;O;AU;KA;KHA;GA;GHA;NGA;CA",
    "CHA;JA;JHA;NYA;TTA;TTHA;DDA;DDHA;NNA;TA;THA;DA;DHA;NA;PA;PHA;BA;BHA;MA;YA;RA;LA;VA;SHA;SSA",
    "SA;HA;LLA;OLD TAMIL LLLA;OLD TAMIL RRA;OLD TAMIL NNNA"]⟩,
  ⟨0x11038, "BRAHMI VOWEL SIGN ", [
    "AA;BHATTIPROLU AA;I;II;U;UU;VOCALIC R;VOCALIC RR;VOCALIC L;VOCALIC LL;E;AI;O;AU"]⟩,
  ⟨0x11046, "BRAHMI ", ["VIRAMA;DANDA;DOUBLE DANDA"]⟩,
  ⟨0x11049, "BRAHMI PUNCTUATION ", ["DOT;DOUBLE DOT;LINE;CRESCENT BAR;LOTUS"]⟩,
  ⟨0x11052, "BRAHMI NUMBER ", [
    "ONE;TWO;THREE;FOUR;FIVE;SIX;SEVEN;EIGHT;NINE;TEN;TWENTY;THIRTY;FORTY;FIFTY;SIXTY;SEVENTY",
    "EIGHTY;NINETY;ONE HUNDRED;ONE THOUSAND"]⟩,
  ⟨0x11066, "BRAHMI DIGIT ", ["ZERO;ONE;TWO;THREE;FOUR;FIVE;SIX;SEVEN;EIGHT;NINE"]⟩,
  ⟨0x11070, "BRAHMI ", [
    "SIGN OLD TAMIL VIRAMA;LETTER OLD TAMIL SHORT E;LETTER OLD TAMIL SHORT O",
    "VOWEL SIGN OLD TAMIL SHORT E;VOWEL SIGN OLD TAMIL SHORT O;LETTER OLD TAMIL LLA"]⟩,
  ⟨0x1107F, "", ["BRAHMI NUMBER JOINER"]⟩,
  ⟨0x11080, "KAITHI SIGN ", ["CANDRABINDU;ANUSVARA;VISARGA"]⟩,
  ⟨0x11083, "KAITHI LETTER ", [
    "A;AA;I;II;U;UU;E;AI;O;AU;KA;KHA;GA;GHA;NGA;CA;CHA;JA;JHA;NYA;TTA;TTHA;DDA;DDDHA;DDHA;RHA",
    "NNA;TA;THA;DA;DHA;NA;PA;PHA;BA;BHA;MA;YA;RA;LA;VA;SHA;SSA;SA;HA"]⟩,
  ⟨0x110B0, "KAITHI VOWEL SIGN ", ["AA;I;II;U;UU;E;AI;O;AU"]⟩,
  ⟨0x110B9, "KAITHI ", [
    "SIGN VIRAMA;SIGN NUKTA;ABBREVIATION SIGN;ENUMERATION SIGN;NUMBER SIGN;SECTION MARK",
    "DOUBLE SECTION MARK;DANDA;DOUBLE DANDA;VOWEL SIGN VOCALIC R"]⟩,
  ⟨0x110CD, "", ["KAITHI NUMBER SIGN ABOVE"]⟩,
  ⟨0x110D0, "SORA SOMPENG LETTER ", [
    "SAH;TAH;BAH;CAH;DAH;GAH;MAH;NGAH;LAH;NAH;VAH;PAH;YAH;RAH;HAH;KAH;JAH;NYAH;AH;EEH;IH;UH;OH",
    "EH;MAE"]⟩,
  ⟨0x110F0, "SORA SOMPENG DIGIT ", ["ZERO;ONE;TWO;THREE;FOUR;FIVE;SIX;SEVEN;EIGHT;NINE"]⟩,
  ⟨0x11100, "CHAKMA SIGN ", ["CANDRABINDU;ANUSVARA;VISARGA"]⟩,
  ⟨0x11103, "CHAKMA LETTER ", [
    "AA;I;U;E;KAA;KHAA;GAA;GHAA;NGAA;CAA;CHAA;JAA;JHAA;NYAA;TTAA;TTHAA;DDAA;DDHAA;NNAA;TAA;THAA",
    "DAA;DHAA;NAA;PAA;PHAA;BAA;BHAA;MAA;YYAA;YAA;RAA;LAA;WAA;SAA;HAA"]⟩,
  ⟨0x11127, "CHAKMA VOWEL SIGN ", ["A;I;II;U;UU;E;AI;O;AU;OI"]⟩,
  ⟨0x11131, "CHAKMA ", [
    "O MARK;AU MARK;VIRAMA;MAAYYAA;;DIGIT ZERO;DIGIT ONE;DIGIT TWO;DIGIT THREE;DIGIT FOUR",
    "DIGIT FIVE;DIGIT SIX;DIGIT SEVEN;DIGIT EIGHT;DIGIT NINE;SECTION MARK;DANDA;DOUBLE DANDA",
    "QUESTION MARK;LETTER LHAA;VOWEL SIGN AA;VOWEL SIGN EI;LETTER VAA"]⟩,
  ⟨0x11150, "MAHAJANI LETTER ", [
    "A;I;U;E;O;KA;KHA;GA;GHA;CA;CHA;JA;JHA;NYA;TTA;TTHA;DDA;DDHA;NNA;TA;THA;DA;DHA;NA;PA;PHA;BA",
    "BHA;MA;RA;LA;VA;SA;HA;RRA"]⟩,
  ⟨0x11173, "MAHAJANI ", ["SIGN NUKTA;ABBREVIATION SIGN;SECTION MARK;LIGATURE SHRI"]⟩,
  ⟨0x11180, "SHARADA SIGN ", ["CANDRABINDU;ANUSVARA;VISARGA"]⟩,
  ⟨0x11183, "SHARADA LETTER ", [
    "A;AA;I;II;U;UU;VOCALIC R;VOCALIC RR;VOCALIC L;VOCALIC LL;E;AI;O;AU;KA;KHA;GA;GHA;NGA;CA",
    "CHA;JA;JHA;NYA;TTA;TTHA;DDA;DDHA;NNA;TA;THA;DA;DHA;NA;PA;PHA;BA;BHA;MA;YA;RA;LA;LLA;VA;SHA",
    "SSA;SA;HA"]⟩,
  ⟨0x111B3, "SHARADA VOWEL SIGN ", [
    "AA;I;II;U;UU;VOCALIC R;VOCALIC RR;VOCALIC L;VOCALIC LL;E;AI;O;AU"]⟩,
  ⟨0x111C0, "SHARADA ", [
    "SIGN VIRAMA;SIGN AVAGRAHA;SIGN JIHVAMULIYA;SIGN UPADHMANIYA;OM;DANDA;DOUBLE DANDA",
    "ABBREVIATION SIGN;SEPARATOR;SANDHI MARK;SIGN NUKTA;VOWEL MODIFIER MARK",
    "EXTRA SHORT VOWEL MARK;SUTRA MARK;VOWEL SIGN PRISHTHAMATRA E;SIGN INVERTED CANDRABINDU",
    "DIGIT ZERO;DIGIT ONE;DIGIT TWO;DIGIT THREE;DIGIT FOUR;DIGIT FIVE;DIGIT SIX;DIGIT SEVEN",
    "DIGIT EIGHT;DIGIT NINE;EKAM;SIGN SIDDHAM;HEADSTROKE;CONTINUATION SIGN;SECTION MARK-1",
    "SECTION MARK-2"]⟩,
  ⟨0x111E1, "SINHALA ARCHAIC DIGIT ", ["ONE;TWO;THREE;FOUR;FIVE;SIX;SEVEN;EIGHT;NINE"]⟩,
  ⟨0x111EA, "SINHALA ARCHAIC NUMBER ", [
    "TEN;TWENTY;THIRTY;FORTY;FIFTY;SIXTY;SEVENTY;EIGHTY;NINETY;ONE HUNDRED;ONE THOUSAND"]⟩,
  ⟨0x11200, "KHOJKI LETTER ", [
    "A;AA;I;U;E;AI;O;AU;KA;KHA;GA;GGA;GHA;NGA;CA;CHA;JA;JJA;;NYA;TTA;TTHA;DDA;DDHA;NNA;TA;THA",
    "DA;DDDA;DHA;NA;PA;PHA;BA;BBA;BHA;MA;YA;RA;LA;VA;SA;HA;LLA"]⟩,
  ⟨0x1122C, "KHOJKI VOWEL SIGN ", ["AA;I;II;U;E;AI;O;AU"]⟩,
  ⟨0x11234, "KHOJKI ", [
    "SIGN ANUSVARA;SIGN VIRAMA;SIGN NUKTA;SIGN SHADDA;DANDA;DOUBLE DANDA;WORD SEPARATOR",
    "SECTION MARK;DOUBLE SECTION MARK;ABBREVIATION SIGN;SIGN SUKUN;LETTER QA;LETTER SHORT I",
    "VOWEL SIGN VOCALIC R"]⟩,
  ⟨0x11280, "MULTANI LETTER ", [
    "A;I;U;E;KA;KHA;GA;;GHA;;CA;CHA;JA;JJA;;NYA;TTA;TTHA;DDA;DDDA;DDHA;NNA;TA;THA;DA;DHA;NA;PA",
    "PHA;BA;;BHA;MA;YA;RA;LA;VA;SA;HA;RRA;RHA"]⟩,
  ⟨0x112A9, "", ["MULTANI SECTION MARK"]⟩,
  ⟨0x112B0, "KHUDAWADI LETTER ", [
    "A;AA;I;II;U;UU;E;AI;O;AU;KA;KHA;GA;GGA;GHA;NGA;CA;CHA;JA;JJA;JHA;NYA;TTA;TTHA;DDA;DDDA;RRA",
    "DDHA;NNA;TA;THA;DA;DHA;NA;PA;PHA;BA;BBA;BHA;MA;YA;RA;LA;VA;SHA;SA;HA"]⟩,
  ⟨0x112DF, "", ["KHUDAWADI SIGN ANUSVARA"]⟩,
  ⟨0x112E0, "KHUDAWADI VOWEL SIGN ", ["AA;I;II;U;UU;E;AI;O;AU"]⟩,
  ⟨0x112E9, "KHUDAWADI SIGN ", ["NUKTA;VIRAMA"]⟩,
  ⟨0x112F0, "KHUDAWADI DIGIT ", ["ZERO;ONE;TWO;THREE;FOUR;FIVE;SIX;SEVEN;EIGHT;NINE"]⟩,
  ⟨0x11300, "GRANTHA SIGN ", ["COMBINING ANUSVARA ABOVE;CANDRABINDU;ANUSVARA;VISARGA"]⟩,
  ⟨0x11305, "GRANTHA LETTER ", [
    "A;AA;I;II;U;UU;VOCALIC R;VOCALIC L;;;EE;AI;;;OO;AU;KA;KHA;GA;GHA;NGA;CA;CHA;JA;JHA;NYA;TTA",
    "TTHA;DDA;DDHA;NNA;TA;THA;DA;DHA;NA;;PA;PHA;BA;BHA;MA;YA;RA;;LA;LLA;;VA;SHA;SSA;SA;HA"]⟩,
  ⟨0x1133B, "", ["COMBINING BINDU BELOW;GRANTHA SIGN NUKTA;GRANTHA SIGN AVAGRAHA"]⟩,
  ⟨0x1133E, "GRANTHA VOWEL SIGN ", ["AA;I;II;U;UU;VOCALIC R;VOCALIC RR;;;EE;AI;;;OO;AU"]⟩,
  ⟨0x1134D, "GRANTHA ", [
    "SIGN VIRAMA;;;OM;;;;;;;AU LENGTH MARK;;;;;;SIGN PLUTA;LETTER VEDIC ANUSVARA",
    "LETTER VEDIC DOUBLE ANUSVARA;LETTER VOCALIC RR;LETTER VOCALIC LL;VOWEL SIGN VOCALIC L",
    "VOWEL SIGN VOCALIC LL"]⟩,
  ⟨0x11366, "COMBINING GRANTHA DIGIT ", ["ZERO;ONE;TWO;THREE;FOUR;FIVE;SIX"]⟩,
  ⟨0x11370, "COMBINING GRANTHA LETTER ", ["A;KA;NA;VI;PA"]⟩,
  ⟨0x11380, "TULU-TIGALARI LETTER ", [
    "A;AA;I;II;U;UU;VOCALIC R;VOCALIC RR;VOCALIC L;VOCALIC LL;;EE;;;AI;;OO;AU;KA;KHA;GA;GHA;NGA",
    "CA;CHA;JA;JHA;NYA;TTA;TTHA;DDA;DDHA;NNA;TA;THA;DA;DHA;NA;PA;PHA;BA;BHA;MA;YA;RA;LA;VA;SHA",
    "SSA;SA;HA;LLA;RRA;LLLA"]⟩,
  ⟨0x113B7, "", ["TULU-TIGALARI SIGN AVAGRAHA"]⟩,
  ⟨0x113B8, "TULU-TIGALARI VOWEL SIGN ", [
    "AA;I;II;U;UU;VOCALIC R;VOCALIC RR;VOCALIC L;VOCALIC LL;;EE;;;AI;;OO;AU"]⟩,
  ⟨0x113C9, "TULU-TIGALARI ", [
    "AU LENGTH MARK;SIGN CANDRA ANUNASIKA;;SIGN ANUSVARA;SIGN VISARGA;SIGN VIRAMA",
    "SIGN LOOPED VIRAMA;CONJOINER;REPHA;GEMINATION MARK;SIGN PLUTA;DANDA;DOUBLE DANDA;",
    "SIGN OM PUSHPIKA;SIGN SHRII PUSHPIKA;;;;;;;;;VEDIC TONE SVARITA;VEDIC TONE ANUDATTA"]⟩,
  ⟨0x11400, "NEWA LETTER ", [
    "A;AA;I;II;U;UU;VOCALIC R;VOCALIC RR;VOCALIC L;VOCALIC LL;E;AI;O;AU;KA;KHA;GA;GHA;NGA;NGHA",
    "CA;CHA;JA;JHA;NYA;NYHA;TTA;TTHA;DDA;DDHA;NNA;TA;THA;DA;DHA;NA;NHA;PA;PHA;BA;BHA;MA;MHA;YA",
    "RA;RHA;LA;LHA;WA;SHA;SSA;SA;HA"]⟩,
  ⟨0x11435, "NEWA VOWEL SIGN ", [
    "AA;I;II;U;UU;VOCALIC R;VOCALIC RR;VOCALIC L;VOCALIC LL;E;AI;O;AU"]⟩,
  ⟨0x11442, "NEWA ", [
    "SIGN VIRAMA;SIGN CANDRABINDU;SIGN ANUSVARA;SIGN VISARGA;SIGN NUKTA;SIGN AVAGRAHA",
    "SIGN FINAL ANUSVARA;OM;SIDDHI;DANDA;DOUBLE DANDA;COMMA;GAP FILLER;ABBREVIATION SIGN",
    "DIGIT ZERO;DIGIT ONE;DIGIT TWO;DIGIT THREE;DIGIT FOUR;DIGIT FIVE;DIGIT SIX;DIGIT SEVEN",
    "DIGIT EIGHT;DIGIT NINE;DOUBLE COMMA;PLACEHOLDER MARK;;INSERTION SIGN;SANDHI MARK",
    "LETTER VEDIC ANUSVARA;SIGN JIHVAMULIYA;SIGN UPADHMANIYA"]⟩,
  ⟨0x11480, "", ["TIRHUTA ANJI"]⟩,
  ⟨0x11481, "TIRHUTA LETTER ", [
    "A;AA;I;II;U;UU;VOCALIC R;VOCALIC RR;VOCALIC L;VOCALIC LL;E;AI;O;AU;KA;KHA;GA;GHA;NGA;CA",
    "CHA;JA;JHA;NYA;TTA;TTHA;DDA;DDHA;NNA;TA;THA;DA;DHA;NA;PA;PHA;BA;BHA;MA;YA;RA;LA;VA;SHA;SSA",
    "SA;HA"]⟩,
  ⟨0x114B0, "TIRHUTA VOWEL SIGN ", [
    "AA;I;II;U;UU;VOCALIC R;VOCALIC RR;VOCALIC L;VOCALIC LL;E;SHORT E;AI;O;SHORT O;AU"]⟩,
  ⟨0x114BF, "TIRHUTA ", [
    "SIGN CANDRABINDU;SIGN ANUSVARA;SIGN VISARGA;SIGN VIRAMA;SIGN NUKTA;SIGN AVAGRAHA;GVANG",
    "ABBREVIATION SIGN;OM"]⟩,
  ⟨0x114D0, "TIRHUTA DIGIT ", ["ZERO;ONE;TWO;THREE;FOUR;FIVE;SIX;SEVEN;EIGHT;NINE"]⟩,
  ⟨0x11580, "SIDDHAM LETTER ", [
    "A;AA;I;II;U;UU;VOCALIC R;VOCALIC RR;VOCALIC L;VOCALIC LL;E;AI;O;AU;KA;KHA;GA;GHA;NGA;CA",
    "CHA;JA;JHA;NYA;TTA;TTHA;DDA;DDHA;NNA;TA;THA;DA;DHA;NA;PA;PHA;BA;BHA;MA;YA;RA;LA;VA;SHA;SSA",
    "SA;HA"]⟩,
  ⟨0x115AF, "SIDDHAM VOWEL SIGN ", ["AA;I;II;U;UU;VOCALIC R;VOCALIC RR;;;E;AI;O;AU"]⟩,
  ⟨0x115BC, "SIDDHAM ", [
    "SIGN CANDRABINDU;SIGN ANUSVARA;SIGN VISARGA;SIGN VIRAMA;SIGN NUKTA;SIGN SIDDHAM;DANDA",
    "DOUBLE DANDA;SEPARATOR DOT;SEPARATOR BAR;REPETITION MARK-1;REPETITION MARK-2",
    "REPETITION MARK-3;END OF TEXT MARK"]⟩,
  ⟨0x115CA, "SIDDHAM SECTION MARK ", [
    "WITH TRIDENT AND U-SHAPED ORNAMENTS;WITH TRIDENT AND DOTTED CRESCENTS",
    "WITH RAYS AND DOTTED CRESCENTS;WITH RAYS AND DOTTED DOUBLE CRESCENTS",
    "WITH RAYS AND DOTTED TRIPLE CRESCENTS;DOUBLE RING;DOUBLE RING WITH RAYS",
    "WITH DOUBLE CRESCENTS;WITH TRIPLE CRESCENTS;WITH QUADRUPLE CRESCENTS",
    "WITH SEPTUPLE CRESCENTS;WITH CIRCLES AND RAYS;WITH CIRCLES AND TWO ENCLOSURES",
    "WITH CIRCLES AND FOUR ENCLOSURES"]⟩,
  ⟨0x115D8, "SIDDHAM LETTER ", [
    "THREE-CIRCLE ALTERNATE I;TWO-CIRCLE ALTERNATE I;TWO-CIRCLE ALTERNATE II;ALTERNATE U"]⟩,
  ⟨0x115DC, "SIDDHAM VOWEL SIGN ALTERNATE ", ["U;UU"]⟩,
  ⟨0x11600, "MODI LETTER ", [
    "A;AA;I;II;U;UU;VOCALIC R;VOCALIC RR;VOCALIC L;VOCALIC LL;E;AI;O;AU;KA;KHA;GA;GHA;NGA;CA",
    "CHA;JA;JHA;NYA;TTA;TTHA;DDA;DDHA;NNA;TA;THA;DA;DHA;NA;PA;PHA;BA;BHA;MA;YA;RA;LA;VA;SHA;SSA",
    "SA;HA;LLA"]⟩,
  ⟨0x11630, "MODI VOWEL SIGN ", [
    "AA;I;II;U;UU;VOCALIC R;VOCALIC RR;VOCALIC L;VOCALIC LL;E;AI;O;AU"]⟩,
  ⟨0x1163D, "MODI ", [
    "SIGN ANUSVARA;SIGN VISARGA;SIGN VIRAMA;SIGN ARDHACANDRA;DANDA;DOUBLE DANDA",
    "ABBREVIATION SIGN;SIGN HUVA"]⟩,
  ⟨0x11650, "MODI DIGIT ", ["ZERO;ONE;TWO;THREE;FOUR;FIVE;SIX;SEVEN;EIGHT;NINE"]⟩,
  ⟨0x11680, "TAKRI LETTER ", [
    "A;AA;I;II;U;UU;E;AI;O;AU;KA;KHA;GA;GHA;NGA;CA;CHA;JA;JHA;NYA;TTA;TTHA;DDA;DDHA;NNA;TA;THA",
    "DA;DHA;NA;PA;PHA;BA;BHA;MA;YA;RA;LA;VA;SHA;SA;HA;RRA"]⟩,
  ⟨0x116AB, "TAKRI SIGN ", ["ANUSVARA;VISARGA"]⟩,
  ⟨0x116AD, "TAKRI VOWEL SIGN ", ["AA;I;II;U;UU;E;AI;O;AU"]⟩,
  ⟨0x116B6, "TAKRI ", ["SIGN VIRAMA;SIGN NUKTA;LETTER ARCHAIC KHA;ABBREVIATION SIGN"]⟩,
  ⟨0x116C0, "TAKRI DIGIT ", ["ZERO;ONE;TWO;THREE;FOUR;FIVE;SIX;SEVEN;EIGHT;NINE"]⟩,
  ⟨0x11700, "AHOM LETTER ", [
    "KA;KHA;NGA;NA;TA;ALTERNATE TA;PA;PHA;BA;MA;JA;CHA;THA;RA;LA;SA;NYA;HA;A;DA;DHA;GA",
    "ALTERNATE GA;GHA;BHA;JHA;ALTERNATE BA"]⟩,
  ⟨0x1171D, "AHOM CONSONANT SIGN MEDIAL ", ["LA;RA;LIGATING RA"]⟩,
  ⟨0x11720, "AHOM VOWEL SIGN ", ["A;AA;I;II;U;UU;E;AW;O;AI;AM"]⟩,
  ⟨0x1172B, "AHOM ", [
    "SIGN KILLER;;;;;DIGIT ZERO;DIGIT ONE;DIGIT TWO;DIGIT THREE;DIGIT FOUR;DIGIT FIVE;DIGIT SIX",
    "DIGIT SEVEN;DIGIT EIGHT;DIGIT NINE;NUMBER TEN;NUMBER TWENTY;SIGN SMALL SECTION",
    "SIGN SECTION;SIGN RULAI;SYMBOL VI"]⟩,
  ⟨0x11740, "AHOM LETTER ", ["CA;TTA;TTHA;DDA;DDHA;NNA;LLA"]⟩,
  ⟨0x11800, "DOGRA LETTER ", [
    "A;AA;I;II;U;UU;E;AI;O;AU;KA;KHA;GA;GHA;NGA;CA;CHA;JA;JHA;NYA;TTA;TTHA;DDA;DDHA;NNA;TA;THA",
    "DA;DHA;NA;PA;PHA;BA;BHA;MA;YA;RA;LA;VA;SHA;SSA;SA;HA;RRA"]⟩,
  ⟨0x1182C, "DOGRA VOWEL SIGN ", ["AA;I;II;U;UU;VOCALIC R;VOCALIC RR;E;AI;O;AU"]⟩,
  ⟨0x11837, "DOGRA ", ["SIGN ANUSVARA;SIGN VISARGA;SIGN VIRAMA;SIGN NUKTA;ABBREVIATION SIGN"]⟩,
  ⟨0x118A0, "WARANG CITI CAPITAL LETTER ", [
    "NGAA;A;WI;YU;YA;YO;II;UU;E;O;ANG;GA;KO;ENY;YUJ;UC;ENN;ODD;TTE;NUNG;DA;AT;AM;BU;PU;HIYO",
    "HOLO;HORR;HAR;SSUU;SII;VIYO"]⟩,
  ⟨0x118C0, "WARANG CITI SMALL LETTER ", [
    "NGAA;A;WI;YU;YA;YO;II;UU;E;O;ANG;GA;KO;ENY;YUJ;UC;ENN;ODD;TTE;NUNG;DA;AT;AM;BU;PU;HIYO",
    "HOLO;HORR;HAR;SSUU;SII;VIYO"]⟩,
  ⟨0x118E0, "WARANG CITI DIGIT ", ["ZERO;ONE;TWO;THREE;FOUR;FIVE;SIX;SEVEN;EIGHT;NINE"]⟩,
  ⟨0x118EA, "WARANG CITI NUMBER ", ["TEN;TWENTY;THIRTY;FORTY;FIFTY;SIXTY;SEVENTY;EIGHTY;NINETY"]⟩,
  ⟨0x118FF, "", ["WARANG CITI OM"]⟩,
  ⟨0x11900, "DIVES AKURU LETTER ", [
    "A;AA;I;II;U;UU;E;;;O;;;KA;KHA;GA;GHA;NGA;CA;CHA;JA;;NYA;TTA;;DDA;DDHA;NNA;TA;THA;DA;DHA;NA",
    "PA;PHA;BA;BHA;MA;YA;YYA;RA;LA;VA;SHA;SSA;SA;HA;LLA;ZA"]⟩,
  ⟨0x11930, "DIVES AKURU VOWEL SIGN ", ["AA;I;II;U;UU;E;;AI;O"]⟩,
  ⟨0x1193B, "DIVES AKURU ", [
    "SIGN ANUSVARA;SIGN CANDRABINDU;SIGN HALANTA;VIRAMA;PREFIXED NASAL SIGN;MEDIAL YA",
    "INITIAL RA;MEDIAL RA;SIGN NUKTA;DOUBLE DANDA;GAP FILLER;END OF TEXT MARK"]⟩,
  ⟨0x11950, "DIVES AKURU DIGIT ", ["ZERO;ONE;TWO;THREE;FOUR;FIVE;SIX;SEVEN;EIGHT;NINE"]⟩,
  ⟨0x119A0, "NANDINAGARI LETTER ", [
    "A;AA;I;II;U;UU;VOCALIC R;VOCALIC RR;;;E;AI;O;AU;KA;KHA;GA;GHA;NGA;CA;CHA;JA;JHA;NYA;TTA",
    "TTHA;DDA;DDHA;NNA;TA;THA;DA;DHA;NA;PA;PHA;BA;BHA;MA;YA;RA;LA;VA;SHA;SSA;SA;HA;LLA;RRA"]⟩,
  ⟨0x119D1, "NANDINAGARI VOWEL SIGN ", ["AA;I;II;U;UU;VOCALIC R;VOCALIC RR;;;E;AI;O;AU"]⟩,
  ⟨0x119DE, "NANDINAGARI ", [
    "SIGN ANUSVARA;SIGN VISARGA;SIGN VIRAMA;SIGN AVAGRAHA;SIGN SIDDHAM;HEADSTROKE",
    "VOWEL SIGN PRISHTHAMATRA E"]⟩,
  ⟨0x11B00, "DEVANAGARI ", [
    "HEAD MARK;HEAD MARK WITH HEADSTROKE;SIGN BHALE;SIGN BHALE WITH HOOK;SIGN EXTENDED BHALE",
    "SIGN EXTENDED BHALE WITH HOOK;SIGN WESTERN FIVE-LIKE BHALE;SIGN WESTERN NINE-LIKE BHALE",
    "SIGN REVERSED NINE-LIKE BHALE;SIGN MINDU"]⟩,
  ⟨0x11BC0, "SUNUWAR LETTER ", [
    "DEVI;TASLA;EKO;IMAR;REU;UTTHI;KIK;MA;APPHO;PIP;GIL;HAMSO;CARMI;NAH;BUR;JYAH;LOACHA;OTTHI",
    "SHYELE;VARCA;YAT;AVA;AAL;DONGA;THARI;PHAR;NGAR;KHA;SHYER;CHELAP;TENTU;THELE;KLOKO"]⟩,
  ⟨0x11BE1, "", ["SUNUWAR SIGN PVO"]⟩,
  ⟨0x11BF0, "SUNUWAR DIGIT ", ["ZERO;ONE;TWO;THREE;FOUR;FIVE;SIX;SEVEN;EIGHT;NINE"]⟩,
  ⟨0x11C00, "BHAIKSUKI LETTER ", [
    "A;AA;I;II;U;UU;VOCALIC R;VOCALIC RR;VOCALIC L;;E;AI;O;AU;KA;KHA;GA;GHA;NGA;CA;CHA;JA;JHA",
    "NYA;TTA;TTHA;DDA;DDHA;NNA;TA;THA;DA;DHA;NA;PA;PHA;BA;BHA;MA;YA;RA;LA;VA;SHA;SSA;SA;HA"]⟩,
  ⟨0x11C2F, "BHAIKSUKI VOWEL SIGN ", ["AA;I;II;U;UU;VOCALIC R;VOCALIC RR;VOCALIC L;;E;AI;O;AU"]⟩,
  ⟨0x11C3C, "BHAIKSUKI ", [
    "SIGN CANDRABINDU;SIGN ANUSVARA;SIGN VISARGA;SIGN VIRAMA;SIGN AVAGRAHA;DANDA;DOUBLE DANDA",
    "WORD SEPARATOR;GAP FILLER-1;GAP FILLER-2"]⟩,
  ⟨0x11C50, "BHAIKSUKI DIGIT ", ["ZERO;ONE;TWO;THREE;FOUR;FIVE;SIX;SEVEN;EIGHT;NINE"]⟩,
  ⟨0x11C5A, "BHAIKSUKI NUMBER ", [
    "ONE;TWO;THREE;FOUR;FIVE;SIX;SEVEN;EIGHT;NINE;TEN;TWENTY;THIRTY;FORTY;FIFTY;SIXTY;SEVENTY",
    "EIGHTY;NINETY"]⟩,
  ⟨0x11C6C, "", ["BHAIKSUKI HUNDREDS UNIT MARK"]⟩,
  ⟨0x11D00, "MASARAM GONDI LETTER ", [
    "A;AA;I;II;U;UU;E;;AI;O;;AU;KA;KHA;GA;GHA;NGA;CA;CHA;JA;JHA;NYA;TTA;TTHA;DDA;DDHA;NNA;TA",
    "THA;DA;DHA;NA;PA;PHA;BA;BHA;MA;YA;RA;LA;VA;SHA;SSA;SA;HA;LLA;KSSA;JNYA;TRA"]⟩,
  ⟨0x11D31, "MASARAM GONDI VOWEL SIGN ", ["AA;I;II;U;UU;VOCALIC R;;;;E;;AI;O;;AU"]⟩,
  ⟨0x11D40, "MASARAM GONDI ", [
    "SIGN ANUSVARA;SIGN VISARGA;SIGN NUKTA;SIGN CANDRA;SIGN HALANTA;VIRAMA;REPHA;RA-KARA"]⟩,
  ⟨0x11D50, "MASARAM GONDI DIGIT ", ["ZERO;ONE;TWO;THREE;FOUR;FIVE;SIX;SEVEN;EIGHT;NINE"]⟩,
  ⟨0x11D60, "GUNJALA GONDI LETTER ", [
    "A;AA;I;II;U;UU;;EE;AI;;OO;AU;YA;VA;BA;BHA;MA;KA;KHA;TA;THA;LA;GA;GHA;DA;DHA;NA;CA;CHA;TTA",
    "TTHA;LLA;JA;JHA;DDA;DDHA;NGA;PA;PHA;HA;RA;SA"]⟩,
  ⟨0x11D8A, "GUNJALA GONDI VOWEL SIGN ", ["AA;I;II;U;UU;;EE;AI;;OO;AU"]⟩,
  ⟨0x11D95, "GUNJALA GONDI ", ["SIGN ANUSVARA;SIGN VISARGA;VIRAMA;OM"]⟩,
  ⟨0x11DA0, "GUNJALA GONDI DIGIT ", ["ZERO;ONE;TWO;THREE;FOUR;FIVE;SIX;SEVEN;EIGHT;NINE"]⟩,
  ⟨0x11FC0, "TAMIL FRACTION ", [
    "ONE THREE-HUNDRED-AND-TWENTIETH;ONE ONE-HUNDRED-AND-SIXTIETH;ONE EIGHTIETH",
    "ONE SIXTY-FOURTH;ONE FORTIETH;ONE THIRTY-SECOND;THREE EIGHTIETHS;THREE SIXTY-FOURTHS",
    "ONE TWENTIETH;ONE SIXTEENTH-1;ONE SIXTEENTH-2;ONE TENTH;ONE EIGHTH;THREE TWENTIETHS",
    "THREE SIXTEENTHS;ONE FIFTH;ONE QUARTER;ONE HALF-1;ONE HALF-2;THREE QUARTERS",
    "DOWNSCALING FACTOR KIIZH"]⟩,
  ⟨0x11FD5, "TAMIL SIGN ", [
    "NEL;CEVITU;AAZHAAKKU;UZHAKKU;MUUVUZHAKKU;KURUNI;PATHAKKU;MUKKURUNI;KAACU;PANAM;PON",
    "VARAAKAN;PAARAM;KUZHI;VELI"]⟩,
  ⟨0x11FE4, "TAMIL ", [
    "WET CULTIVATION SIGN;DRY CULTIVATION SIGN;LAND SIGN;SALT PAN SIGN;TRADITIONAL CREDIT SIGN",
    "TRADITIONAL NUMBER SIGN;CURRENT SIGN;AND ODD SIGN;SPENT SIGN;TOTAL SIGN;IN POSSESSION SIGN",
    "STARTING FROM SIGN;SIGN MUTHALIYA;SIGN VAKAIYARAA"]⟩,
  ⟨0x11FFF, "", ["TAMIL PUNCTUATION END OF TEXT"]⟩,
  ⟨0x16100, "GURUNG KHEMA LETTER ", [
    "A;KA;KHA;GA;GHA;NGA;CA;CHA;JA;JHA;HA;TTA;TTHA;DDA;DDHA;VA;TA;THA;DA;DHA;NA;PA;PHA;BA;BHA",
    "MA;YA;RA;LA;SA"]⟩,
  ⟨0x1611E, "GURUNG KHEMA VOWEL SIGN ", ["AA;I;II;U;UU;E;EE;AI;O;OO;AU"]⟩,
  ⟨0x16129, "GURUNG KHEMA ", [
    "VOWEL LENGTH MARK;CONSONANT SIGN MEDIAL YA;CONSONANT SIGN MEDIAL VA",
    "CONSONANT SIGN MEDIAL HA;SIGN ANUSVARA;CONSONANT SIGN MEDIAL RA;SIGN THOLHOMA"]⟩,
  ⟨0x16130, "GURUNG KHEMA DIGIT ", ["ZERO;ONE;TWO;THREE;FOUR;FIVE;SIX;SEVEN;EIGHT;NINE"]⟩,
  ⟨0x16A40, "MRO LETTER ", [
    "TA;NGI;YO;MIM;BA;DA;A;PHI;KHAI;HAO;DAI;CHU;KEAAE;OL;MAEM;NIN;PA;OO;O;RO;SHI;THEA;EA;WA;E",
    "KO;LAN;LA;HAI;RI;TEK"]⟩,
  ⟨0x16A60, "MRO DIGIT ", ["ZERO;ONE;TWO;THREE;FOUR;FIVE;SIX;SEVEN;EIGHT;NINE"]⟩,
  ⟨0x16A6E, "MRO ", ["DANDA;DOUBLE DANDA"]⟩,
  ⟨0x16A70, "TANGSA LETTER ", [
    "OZ;OC;OQ;OX;AZ;AC;AQ;AX;VZ;VC;VQ;VX;EZ;EC;EQ;EX;IZ;IC;IQ;IX;UZ;UC;UQ;UX;AWZ;AWC;AWQ;AWX",
    "UIZ;UIC;UIQ;UIX;FINAL NG;LONG UEX;SHORT UEZ;SHORT AWX;UEC;UEZ;UEQ;UEX;UIUZ;UIUC;UIUQ;UIUX",
    "MZ;MC;MQ;MX;KA;KHA;GA;NGA;SA;YA;WA;PA;NYA;PHA;BA;MA;NA;HA;LA;HTA;TA;DA;RA;NHA;SHA;CA;TSA",
    "GHA;HTTA;THA;XA;FA;DHA;CHA;ZA"]⟩,
  ⟨0x16AC0, "TANGSA DIGIT ", ["ZERO;ONE;TWO;THREE;FOUR;FIVE;SIX;SEVEN;EIGHT;NINE"]⟩,
  ⟨0x16D40, "KIRAT RAI SIGN ", ["ANUSVARA;TONPI;VISARGA"]⟩,
  ⟨0x16D43, "KIRAT RAI LETTER ", [
    "A;KA;KHA;GA;GHA;NGA;CA;CHA;JA;JHA;NYA;TTA;TTHA;DDA;DDHA;TA;THA;DA;DHA;NA;PA;PHA;BA;BHA;MA",
    "YA;RA;LA;VA;SA;SHA;HA"]⟩,
  ⟨0x16D63, "KIRAT RAI VOWEL SIGN ", ["AA;I;U;UE;E;AI;O;AU"]⟩,
  ⟨0x16D6B, "KIRAT RAI ", ["SIGN VIRAMA;SIGN SAAT;SIGN YUPI;DANDA;DOUBLE DANDA"]⟩,
  ⟨0x16D70, "KIRAT RAI DIGIT ", ["ZERO;ONE;TWO;THREE;FOUR;FIVE;SIX;SEVEN;EIGHT;NINE"]⟩,
  ⟨0x1E290, "TOTO LETTER ", [
    "PA;BA;TA;DA;KA;GA;MA;NA;NGA;SA;CHA;YA;WA;JA;HA;RA;LA;I;BREATHY I;IU;BREATHY IU;U;E",
    "BREATHY E;EO;BREATHY EO;O;AE;BREATHY AE;A"]⟩,
  ⟨0x1E2AE, "", ["TOTO SIGN RISING TONE"]⟩,
  ⟨0x1E2C0, "WANCHO LETTER ", [
    "AA;A;BA;CA;DA;GA;YA;PHA;LA;NA;PA;TA;THA;FA;SA;SHA;JA;ZA;WA;VA;KA;O;AU;RA;MA;KHA;HA;E;I;NGA",
    "U;LLHA;TSA;TRA;ONG;AANG;ANG;ING;ON;EN;AAN;NYA;UEN;YIH"]⟩,
  ⟨0x1E2EC, "WANCHO ", [
    "TONE TUP;TONE TUPNI;TONE KOI;TONE KOINI;DIGIT ZERO;DIGIT ONE;DIGIT TWO;DIGIT THREE",
    "DIGIT FOUR;DIGIT FIVE;DIGIT SIX;DIGIT SEVEN;DIGIT EIGHT;DIGIT NINE;;;;;;NGUN SIGN"]⟩,
  ⟨0x1E4D0, "NAG MUNDARI LETTER ", [
    "O;OP;OL;OY;ONG;A;AJ;AB;ANY;AH;I;IS;IDD;IT;IH;U;UC;UD;UK;UR;E;ENN;EG;EM;EN;ETT;ELL"]⟩,
  ⟨0x1E4EB, "NAG MUNDARI SIGN ", ["OJOD;MUHOR;TOYOR;IKIR;SUTUH"]⟩,
  ⟨0x1E4F0, "NAG MUNDARI DIGIT ", ["ZERO;ONE;TWO;THREE;FOUR;FIVE;SIX;SEVEN;EIGHT;NINE"]⟩,
  ⟨0x1E5D0, "OL ONAL LETTER ", [
    "O;OM;ONG;ORR;OO;OY;A;AD;AB;AH;AL;AW;I;IT;IP;ITT;ID;IN;U;UK;UDD;UJ;UNY;UR;E;ES;EH;EC;ENN;EG"]⟩,
  ⟨0x1E5EE, "OL ONAL ", [
    "SIGN MU;SIGN IKIR;SIGN HODDOND;DIGIT ZERO;DIGIT ONE;DIGIT TWO;DIGIT THREE;DIGIT FOUR",
    "DIGIT FIVE;DIGIT SIX;DIGIT SEVEN;DIGIT EIGHT;DIGIT NINE;;;;;ABBREVIATION SIGN"]⟩
]

end Frontend.CharacterName
