import Frontend.Token.CharacterName.Run

/-!
# Names of Central Asian letters

The names of the letters and signs of Tibetan, Mongolian and the other scripts of Central Asia.
-/

namespace Frontend.CharacterName

/-- The runs of these names, in the order of the code points. -/
def centralAsian : List Run := [
  ⟨0xF00, "", ["TIBETAN SYLLABLE OM"]⟩,
  ⟨0xF01, "TIBETAN MARK ", [
    "GTER YIG MGO TRUNCATED A;GTER YIG MGO -UM RNAM BCAD MA;GTER YIG MGO -UM GTER TSHEG MA",
    "INITIAL YIG MGO MDUN MA;CLOSING YIG MGO SGAB MA;CARET YIG MGO PHUR SHAD MA",
    "YIG MGO TSHEG SHAD MA;SBRUL SHAD;BSKUR YIG MGO;BKA- SHOG YIG MGO;INTERSYLLABIC TSHEG",
    "DELIMITER TSHEG BSTAR;SHAD;NYIS SHAD;TSHEG SHAD;NYIS TSHEG SHAD;RIN CHEN SPUNGS SHAD",
    "RGYA GRAM SHAD;CARET -DZUD RTAGS ME LONG CAN;GTER TSHEG"]⟩,
  ⟨0xF15, "TIBETAN LOGOTYPE SIGN ", ["CHAD RTAGS;LHAG RTAGS"]⟩,
  ⟨0xF17, "TIBETAN ASTROLOGICAL SIGN ", ["SGRA GCAN -CHAR RTAGS;-KHYUD PA;SDONG TSHUGS"]⟩,
  ⟨0xF1A, "TIBETAN SIGN RDEL ", [
    "DKAR GCIG;DKAR GNYIS;DKAR GSUM;NAG GCIG;NAG GNYIS;DKAR RDEL NAG"]⟩,
  ⟨0xF20, "TIBETAN DIGIT ", [
    "ZERO;ONE;TWO;THREE;FOUR;FIVE;SIX;SEVEN;EIGHT;NINE;HALF ONE;HALF TWO;HALF THREE;HALF FOUR",
    "HALF FIVE;HALF SIX;HALF SEVEN;HALF EIGHT;HALF NINE;HALF ZERO"]⟩,
  ⟨0xF34, "TIBETAN MARK ", [
    "BSDUS RTAGS;NGAS BZUNG NYI ZLA;CARET -DZUD RTAGS BZHI MIG CAN;NGAS BZUNG SGOR RTAGS",
    "CHE MGO;TSA -PHRU;GUG RTAGS GYON;GUG RTAGS GYAS;ANG KHANG GYON;ANG KHANG GYAS"]⟩,
  ⟨0xF3E, "TIBETAN SIGN ", ["YAR TSHES;MAR TSHES"]⟩,
  ⟨0xF40, "TIBETAN LETTER ", [
    "KA;KHA;GA;GHA;NGA;CA;CHA;JA;;NYA;TTA;TTHA;DDA;DDHA;NNA;TA;THA;DA;DHA;NA;PA;PHA;BA;BHA;MA",
    "TSA;TSHA;DZA;DZHA;WA;ZHA;ZA;-A;YA;RA;LA;SHA;SSA;SA;HA;A;KSSA;FIXED-FORM RA;KKA;RRA"]⟩,
  ⟨0xF71, "TIBETAN VOWEL SIGN ", [
    "AA;I;II;U;UU;VOCALIC R;VOCALIC RR;VOCALIC L;VOCALIC LL;E;EE;O;OO"]⟩,
  ⟨0xF7E, "TIBETAN ", [
    "SIGN RJES SU NGA RO;SIGN RNAM BCAD;VOWEL SIGN REVERSED I;VOWEL SIGN REVERSED II",
    "SIGN NYI ZLA NAA DA;SIGN SNA LDAN;MARK HALANTA;MARK PALUTA;SIGN LCI RTAGS;SIGN YANG RTAGS",
    "SIGN LCE TSA CAN;SIGN MCHU CAN;SIGN GRU CAN RGYINGS;SIGN GRU MED RGYINGS",
    "SIGN INVERTED MCHU CAN;SUBJOINED SIGN LCE TSA CAN;SUBJOINED SIGN MCHU CAN",
    "SUBJOINED SIGN INVERTED MCHU CAN"]⟩,
  ⟨0xF90, "TIBETAN SUBJOINED LETTER ", [
    "KA;KHA;GA;GHA;NGA;CA;CHA;JA;;NYA;TTA;TTHA;DDA;DDHA;NNA;TA;THA;DA;DHA;NA;PA;PHA;BA;BHA;MA",
    "TSA;TSHA;DZA;DZHA;WA;ZHA;ZA;-A;YA;RA;LA;SHA;SSA;SA;HA;A;KSSA;FIXED-FORM WA;FIXED-FORM YA",
    "FIXED-FORM RA"]⟩,
  ⟨0xFBE, "TIBETAN ", [
    "KU RU KHA;KU RU KHA BZHI MIG CAN;CANTILLATION SIGN HEAVY BEAT;CANTILLATION SIGN LIGHT BEAT",
    "CANTILLATION SIGN CANG TE-U;CANTILLATION SIGN SBUB -CHAL;SYMBOL DRIL BU;SYMBOL RDO RJE",
    "SYMBOL PADMA GDAN;SYMBOL RDO RJE RGYA GRAM;SYMBOL PHUR PA;SYMBOL NOR BU",
    "SYMBOL NOR BU NYIS -KHYIL;SYMBOL NOR BU GSUM -KHYIL;SYMBOL NOR BU BZHI -KHYIL;",
    "SIGN RDEL NAG RDEL DKAR;SIGN RDEL NAG GSUM;MARK BSKA- SHOG GI MGO RGYAN",
    "MARK MNYAM YIG GI MGO RGYAN;MARK NYIS TSHEG;MARK INITIAL BRDA RNYING YIG MGO MDUN MA",
    "MARK CLOSING BRDA RNYING YIG MGO SGAB MA"]⟩,
  ⟨0xFD5, "", [
    "RIGHT-FACING SVASTI SIGN;LEFT-FACING SVASTI SIGN;RIGHT-FACING SVASTI SIGN WITH DOTS",
    "LEFT-FACING SVASTI SIGN WITH DOTS;TIBETAN MARK LEADING MCHAN RTAGS",
    "TIBETAN MARK TRAILING MCHAN RTAGS"]⟩,
  ⟨0x1800, "MONGOLIAN ", [
    "BIRGA;ELLIPSIS;COMMA;FULL STOP;COLON;FOUR DOTS;TODO SOFT HYPHEN",
    "SIBE SYLLABLE BOUNDARY MARKER;MANCHU COMMA;MANCHU FULL STOP;NIRUGU",
    "FREE VARIATION SELECTOR ONE;FREE VARIATION SELECTOR TWO;FREE VARIATION SELECTOR THREE",
    "VOWEL SEPARATOR;FREE VARIATION SELECTOR FOUR"]⟩,
  ⟨0x1810, "MONGOLIAN DIGIT ", ["ZERO;ONE;TWO;THREE;FOUR;FIVE;SIX;SEVEN;EIGHT;NINE"]⟩,
  ⟨0x1820, "MONGOLIAN LETTER ", [
    "A;E;I;O;U;OE;UE;EE;NA;ANG;BA;PA;QA;GA;MA;LA;SA;SHA;TA;DA;CHA;JA;YA;RA;WA;FA;KA;KHA;TSA;ZA",
    "HAA;ZRA;LHA;ZHI;CHI"]⟩,
  ⟨0x1843, "MONGOLIAN LETTER TODO ", [
    "LONG VOWEL SIGN;E;I;O;U;OE;UE;ANG;BA;PA;QA;GA;MA;TA;DA;CHA;JA;TSA;YA;WA;KA;GAA;HAA;JIA;NIA",
    "DZA"]⟩,
  ⟨0x185D, "MONGOLIAN LETTER SIBE ", [
    "E;I;IY;UE;U;ANG;KA;GA;HA;PA;SHA;TA;DA;JA;FA;GAA;HAA;TSA;ZA;RAA;CHA;ZHA"]⟩,
  ⟨0x1873, "MONGOLIAN LETTER ", [
    "MANCHU I;MANCHU KA;MANCHU RA;MANCHU FA;MANCHU ZHA;CHA WITH TWO DOTS"]⟩,
  ⟨0x1880, "MONGOLIAN LETTER ALI GALI ", [
    "ANUSVARA ONE;VISARGA ONE;DAMARU;UBADAMA;INVERTED UBADAMA;BALUDA;THREE BALUDA;A;I;KA;NGA;CA",
    "TTA;TTHA;DDA;NNA;TA;DA;PA;PHA;SSA;ZHA;ZA;AH"]⟩,
  ⟨0x1898, "MONGOLIAN LETTER TODO ALI GALI ", ["TA;ZHA"]⟩,
  ⟨0x189A, "MONGOLIAN LETTER MANCHU ALI GALI ", ["GHA;NGA;CA;JHA;TTA;DDHA;TA;DHA;SSA;CYA;ZHA;ZA"]⟩,
  ⟨0x18A6, "MONGOLIAN LETTER ", [
    "ALI GALI HALF U;ALI GALI HALF YA;MANCHU ALI GALI BHA;ALI GALI DAGALGA;MANCHU ALI GALI LHA"]⟩,
  ⟨0xA840, "PHAGS-PA LETTER ", [
    "KA;KHA;GA;NGA;CA;CHA;JA;NYA;TA;THA;DA;NA;PA;PHA;BA;MA;TSA;TSHA;DZA;WA;ZHA;ZA;SMALL A;YA;RA",
    "LA;SHA;SA;HA;A;I;U;E;O;QA;XA;FA;GGA;EE"]⟩,
  ⟨0xA867, "PHAGS-PA ", [
    "SUBJOINED LETTER WA;SUBJOINED LETTER YA;LETTER TTA;LETTER TTHA;LETTER DDA;LETTER NNA",
    "LETTER ALTERNATE YA;LETTER VOICELESS SHA;LETTER VOICED HA;LETTER ASPIRATED FA",
    "SUBJOINED LETTER RA;SUPERFIXED LETTER RA;LETTER CANDRABINDU;SINGLE HEAD MARK",
    "DOUBLE HEAD MARK;MARK SHAD;MARK DOUBLE SHAD"]⟩,
  ⟨0x10C00, "OLD TURKIC LETTER ", [
    "ORKHON A;YENISEI A;YENISEI AE;ORKHON I;YENISEI I;YENISEI E;ORKHON O;ORKHON OE;YENISEI OE",
    "ORKHON AB;YENISEI AB;ORKHON AEB;YENISEI AEB;ORKHON AG;YENISEI AG;ORKHON AEG;YENISEI AEG",
    "ORKHON AD;YENISEI AD;ORKHON AED;ORKHON EZ;YENISEI EZ;ORKHON AY;YENISEI AY;ORKHON AEY",
    "YENISEI AEY;ORKHON AEK;YENISEI AEK;ORKHON OEK;YENISEI OEK;ORKHON AL;YENISEI AL;ORKHON AEL",
    "ORKHON ELT;ORKHON EM;ORKHON AN;ORKHON AEN;YENISEI AEN;ORKHON ENT;YENISEI ENT;ORKHON ENC",
    "YENISEI ENC;ORKHON ENY;YENISEI ENY;YENISEI ANG;ORKHON ENG;YENISEI AENG;ORKHON EP;ORKHON OP",
    "ORKHON IC;ORKHON EC;YENISEI EC;ORKHON AQ;YENISEI AQ;ORKHON IQ;YENISEI IQ;ORKHON OQ",
    "YENISEI OQ;ORKHON AR;YENISEI AR;ORKHON AER;ORKHON AS;ORKHON AES;ORKHON ASH;YENISEI ASH",
    "ORKHON ESH;YENISEI ESH;ORKHON AT;YENISEI AT;ORKHON AET;YENISEI AET;ORKHON OT;ORKHON BASH"]⟩,
  ⟨0x10F00, "OLD SOGDIAN LETTER ", [
    "ALEPH;FINAL ALEPH;BETH;FINAL BETH;GIMEL;HE;FINAL HE;WAW;ZAYIN;HETH;YODH;KAPH;LAMEDH;MEM",
    "NUN;FINAL NUN;FINAL NUN WITH VERTICAL TAIL;SAMEKH;AYIN;ALTERNATE AYIN;PE;SADHE;FINAL SADHE",
    "FINAL SADHE WITH VERTICAL TAIL;RESH-AYIN-DALETH;SHIN;TAW;FINAL TAW",
    "FINAL TAW WITH VERTICAL TAIL"]⟩,
  ⟨0x10F1D, "OLD SOGDIAN NUMBER ", ["ONE;TWO;THREE;FOUR;FIVE;TEN;TWENTY;THIRTY;ONE HUNDRED"]⟩,
  ⟨0x10F26, "OLD SOGDIAN ", ["FRACTION ONE HALF;LIGATURE AYIN-DALETH"]⟩,
  ⟨0x10F30, "SOGDIAN LETTER ", [
    "ALEPH;BETH;GIMEL;HE;WAW;ZAYIN;HETH;YODH;KAPH;LAMEDH;MEM;NUN;SAMEKH;AYIN;PE;SADHE;RESH-AYIN",
    "SHIN;TAW;FETH;LESH"]⟩,
  ⟨0x10F45, "", ["SOGDIAN INDEPENDENT SHIN"]⟩,
  ⟨0x10F46, "SOGDIAN COMBINING ", [
    "DOT BELOW;TWO DOTS BELOW;DOT ABOVE;TWO DOTS ABOVE;CURVE ABOVE;CURVE BELOW;HOOK ABOVE",
    "HOOK BELOW;LONG HOOK BELOW;RESH BELOW;STROKE BELOW"]⟩,
  ⟨0x10F51, "SOGDIAN NUMBER ", ["ONE;TEN;TWENTY;ONE HUNDRED"]⟩,
  ⟨0x10F55, "SOGDIAN PUNCTUATION ", [
    "TWO VERTICAL BARS;TWO VERTICAL BARS WITH DOTS;CIRCLE WITH DOT;TWO CIRCLES WITH DOTS",
    "HALF CIRCLE WITH DOT"]⟩,
  ⟨0x10F70, "OLD UYGHUR LETTER ", [
    "ALEPH;BETH;GIMEL-HETH;WAW;ZAYIN;FINAL HETH;YODH;KAPH;LAMEDH;MEM;NUN;SAMEKH;PE;SADHE;RESH",
    "SHIN;TAW;LESH"]⟩,
  ⟨0x10F82, "OLD UYGHUR COMBINING ", ["DOT ABOVE;DOT BELOW;TWO DOTS ABOVE;TWO DOTS BELOW"]⟩,
  ⟨0x10F86, "OLD UYGHUR PUNCTUATION ", ["BAR;TWO BARS;TWO DOTS;FOUR DOTS"]⟩,
  ⟨0x11660, "MONGOLIAN ", [
    "BIRGA WITH ORNAMENT;ROTATED BIRGA;DOUBLE BIRGA WITH ORNAMENT;TRIPLE BIRGA WITH ORNAMENT",
    "BIRGA WITH DOUBLE ORNAMENT;ROTATED BIRGA WITH ORNAMENT;ROTATED BIRGA WITH DOUBLE ORNAMENT",
    "INVERTED BIRGA;INVERTED BIRGA WITH DOUBLE ORNAMENT;SWIRL BIRGA;SWIRL BIRGA WITH ORNAMENT",
    "SWIRL BIRGA WITH DOUBLE ORNAMENT;TURNED SWIRL BIRGA WITH DOUBLE ORNAMENT"]⟩,
  ⟨0x11A00, "", ["ZANABAZAR SQUARE LETTER A"]⟩,
  ⟨0x11A01, "ZANABAZAR SQUARE VOWEL ", [
    "SIGN I;SIGN UE;SIGN U;SIGN E;SIGN OE;SIGN O;SIGN AI;SIGN AU;SIGN REVERSED I;LENGTH MARK"]⟩,
  ⟨0x11A0B, "ZANABAZAR SQUARE LETTER ", [
    "KA;KHA;GA;GHA;NGA;CA;CHA;JA;NYA;TTA;TTHA;DDA;DDHA;NNA;TA;THA;DA;DHA;NA;PA;PHA;BA;BHA;MA",
    "TSA;TSHA;DZA;DZHA;ZHA;ZA;-A;YA;RA;LA;VA;SHA;SSA;SA;HA;KSSA"]⟩,
  ⟨0x11A33, "ZANABAZAR SQUARE ", [
    "FINAL CONSONANT MARK;SIGN VIRAMA;SIGN CANDRABINDU;SIGN CANDRABINDU WITH ORNAMENT",
    "SIGN CANDRA WITH ORNAMENT;SIGN ANUSVARA;SIGN VISARGA;CLUSTER-INITIAL LETTER RA",
    "CLUSTER-FINAL LETTER YA;CLUSTER-FINAL LETTER RA;CLUSTER-FINAL LETTER LA",
    "CLUSTER-FINAL LETTER VA;INITIAL HEAD MARK;CLOSING HEAD MARK;MARK TSHEG;MARK SHAD",
    "MARK DOUBLE SHAD;MARK LONG TSHEG;INITIAL DOUBLE-LINED HEAD MARK",
    "CLOSING DOUBLE-LINED HEAD MARK;SUBJOINER"]⟩,
  ⟨0x11A50, "", ["SOYOMBO LETTER A"]⟩,
  ⟨0x11A51, "SOYOMBO VOWEL ", [
    "SIGN I;SIGN UE;SIGN U;SIGN E;SIGN O;SIGN OE;SIGN AI;SIGN AU;SIGN VOCALIC R;SIGN VOCALIC L",
    "LENGTH MARK"]⟩,
  ⟨0x11A5C, "SOYOMBO LETTER ", [
    "KA;KHA;GA;GHA;NGA;CA;CHA;JA;JHA;NYA;TTA;TTHA;DDA;DDHA;NNA;TA;THA;DA;DHA;NA;PA;PHA;BA;BHA",
    "MA;TSA;TSHA;DZA;ZHA;ZA;-A;YA;RA;LA;VA;SHA;SSA;SA;HA;KSSA"]⟩,
  ⟨0x11A84, "SOYOMBO SIGN ", ["JIHVAMULIYA;UPADHMANIYA"]⟩,
  ⟨0x11A86, "SOYOMBO CLUSTER-INITIAL LETTER ", ["RA;LA;SHA;SA"]⟩,
  ⟨0x11A8A, "SOYOMBO FINAL CONSONANT SIGN ", ["G;K;NG;D;N;B;M;R;L;SH;S;-A"]⟩,
  ⟨0x11A96, "SOYOMBO ", [
    "SIGN ANUSVARA;SIGN VISARGA;GEMINATION MARK;SUBJOINER;MARK TSHEG;MARK SHAD;MARK DOUBLE SHAD",
    "MARK PLUTA;HEAD MARK WITH MOON AND SUN AND TRIPLE FLAME",
    "HEAD MARK WITH MOON AND SUN AND FLAME;HEAD MARK WITH MOON AND SUN;TERMINAL MARK-1",
    "TERMINAL MARK-2"]⟩,
  ⟨0x11C70, "MARCHEN ", ["HEAD MARK;MARK SHAD"]⟩,
  ⟨0x11C72, "MARCHEN LETTER ", [
    "KA;KHA;GA;NGA;CA;CHA;JA;NYA;TA;THA;DA;NA;PA;PHA;BA;MA;TSA;TSHA;DZA;WA;ZHA;ZA;-A;YA;RA;LA",
    "SHA;SA;HA;A"]⟩,
  ⟨0x11C92, "MARCHEN SUBJOINED LETTER ", [
    "KA;KHA;GA;NGA;CA;CHA;JA;NYA;TA;THA;DA;NA;PA;PHA;BA;MA;TSA;TSHA;DZA;WA;ZHA;ZA;;YA;RA;LA;SHA",
    "SA;HA;A"]⟩,
  ⟨0x11CB0, "MARCHEN VOWEL SIGN ", ["AA;I;U;E;O"]⟩,
  ⟨0x11CB5, "MARCHEN SIGN ", ["ANUSVARA;CANDRABINDU"]⟩
]

end Frontend.CharacterName
