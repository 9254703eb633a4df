import CellWidth.Unicode.Name.Run

/-!
# Names: indic

The names of characters of the scripts of India and Sri Lanka, from U+0900 to U+0DF4.
-/

namespace CellWidth.Unicode.NameRun

/-- The runs of this part of the code space, in ascending order. -/
def indic : List NameRun :=
  [⟨0x0900, 0x0903, ["DEVANAGARI SIGN:INVERTED CANDRABINDU,CANDRABINDU,ANUSVARA,VISARGA"]⟩,
    ⟨0x0904, 0x0939, ["DEVANAGARI LETTER:SHORT A,A,AA,I,II,U,UU,VOCALIC R,VOCALIC L,CANDRA E",
      "SHORT E,E,AI,CANDRA O,SHORT O,O,AU,KA,KHA,GA,GHA,NGA,CA,CHA,JA,JHA,NYA,TTA,TTHA,DDA,DDHA",
      "NNA,TA,THA,DA,DHA,NA,NNNA,PA,PHA,BA,BHA,MA,YA,RA,RRA,LA,LLA,LLLA,VA,SHA,SSA,SA,HA"]⟩,
    ⟨0x093a, 0x093d, ["DEVANAGARI:VOWEL SIGN OE,VOWEL SIGN OOE,SIGN NUKTA,SIGN AVAGRAHA"]⟩,
    ⟨0x093e, 0x094c, ["DEVANAGARI VOWEL SIGN:AA,I,II,U,UU,VOCALIC R,VOCALIC RR,CANDRA E,SHORT E,E",
      "AI,CANDRA O,SHORT O,O,AU"]⟩,
    ⟨0x094d, 0x0971, ["DEVANAGARI:SIGN VIRAMA,VOWEL SIGN PRISHTHAMATRA E,VOWEL SIGN AW,OM",
      "STRESS SIGN UDATTA,STRESS SIGN ANUDATTA,GRAVE ACCENT,ACUTE ACCENT,VOWEL SIGN CANDRA LONG E",
      "VOWEL SIGN UE,VOWEL SIGN UUE,LETTER QA,LETTER KHHA,LETTER GHHA,LETTER ZA,LETTER DDDHA",
      "LETTER RHA,LETTER FA,LETTER YYA,LETTER VOCALIC RR,LETTER VOCALIC LL,VOWEL SIGN VOCALIC L",
      "VOWEL SIGN VOCALIC LL,DANDA,DOUBLE DANDA,DIGIT ZERO,DIGIT ONE,DIGIT TWO,DIGIT THREE",
      "DIGIT FOUR,DIGIT FIVE,DIGIT SIX,DIGIT SEVEN,DIGIT EIGHT,DIGIT NINE,ABBREVIATION SIGN",
      "SIGN HIGH SPACING DOT"]⟩,
    ⟨0x0972, 0x097f, ["DEVANAGARI LETTER:CANDRA A,OE,OOE,AW,UE,UUE,MARWARI DDA,ZHA,HEAVY YA,GGA",
      "JJA,GLOTTAL STOP,DDDA,BBA"]⟩,
    ⟨0x0980, 0x0983, ["BENGALI:ANJI,SIGN CANDRABINDU,SIGN ANUSVARA,SIGN VISARGA"]⟩,
    ⟨0x0985, 0x098c, ["BENGALI LETTER:A,AA,I,II,U,UU,VOCALIC R,VOCALIC L"]⟩,
    ⟨0x098f, 0x0990, ["BENGALI LETTER:E,AI"]⟩,
    ⟨0x0993, 0x09a8, ["BENGALI LETTER:O,AU,KA,KHA,GA,GHA,NGA,CA,CHA,JA,JHA,NYA,TTA,TTHA,DDA,DDHA",
      "NNA,TA,THA,DA,DHA,NA"]⟩,
    ⟨0x09aa, 0x09b0, ["BENGALI LETTER:PA,PHA,BA,BHA,MA,YA,RA"]⟩,
    ⟨0x09b2, 0x09b2, [":BENGALI LETTER LA"]⟩,
    ⟨0x09b6, 0x09b9, ["BENGALI LETTER:SHA,SSA,SA,HA"]⟩,
    ⟨0x09bc, 0x09bd, ["BENGALI SIGN:NUKTA,AVAGRAHA"]⟩,
    ⟨0x09be, 0x09c4, ["BENGALI VOWEL SIGN:AA,I,II,U,UU,VOCALIC R,VOCALIC RR"]⟩,
    ⟨0x09c7, 0x09c8, ["BENGALI VOWEL SIGN:E,AI"]⟩,
    ⟨0x09cb, 0x09ce, ["BENGALI:VOWEL SIGN O,VOWEL SIGN AU,SIGN VIRAMA,LETTER KHANDA TA"]⟩,
    ⟨0x09d7, 0x09d7, [":BENGALI AU LENGTH MARK"]⟩,
    ⟨0x09dc, 0x09dd, ["BENGALI LETTER:RRA,RHA"]⟩,
    ⟨0x09df, 0x09e3, ["BENGALI:LETTER YYA,LETTER VOCALIC RR,LETTER VOCALIC LL,VOWEL SIGN VOCALIC L",
      "VOWEL SIGN VOCALIC LL"]⟩,
    ⟨0x09e6, 0x09fe, ["BENGALI:DIGIT ZERO,DIGIT ONE,DIGIT TWO,DIGIT THREE,DIGIT FOUR,DIGIT FIVE",
      "DIGIT SIX,DIGIT SEVEN,DIGIT EIGHT,DIGIT NINE,LETTER RA WITH MIDDLE DIAGONAL",
      "LETTER RA WITH LOWER DIAGONAL,RUPEE MARK,RUPEE SIGN,CURRENCY NUMERATOR ONE",
      "CURRENCY NUMERATOR TWO,CURRENCY NUMERATOR THREE,CURRENCY NUMERATOR FOUR",
      "CURRENCY NUMERATOR ONE LESS THAN THE DENOMINATOR,CURRENCY DENOMINATOR SIXTEEN,ISSHAR",
      "GANDA MARK,LETTER VEDIC ANUSVARA,ABBREVIATION SIGN,SANDHI MARK"]⟩,
    ⟨0x0a01, 0x0a03, ["GURMUKHI SIGN:ADAK BINDI,BINDI,VISARGA"]⟩,
    ⟨0x0a05, 0x0a0a, ["GURMUKHI LETTER:A,AA,I,II,U,UU"]⟩,
    ⟨0x0a0f, 0x0a10, ["GURMUKHI LETTER:EE,AI"]⟩,
    ⟨0x0a13, 0x0a28, ["GURMUKHI LETTER:OO,AU,KA,KHA,GA,GHA,NGA,CA,CHA,JA,JHA,NYA,TTA,TTHA,DDA,DDHA",
      "NNA,TA,THA,DA,DHA,NA"]⟩,
    ⟨0x0a2a, 0x0a30, ["GURMUKHI LETTER:PA,PHA,BA,BHA,MA,YA,RA"]⟩,
    ⟨0x0a32, 0x0a33, ["GURMUKHI LETTER:LA,LLA"]⟩,
    ⟨0x0a35, 0x0a36, ["GURMUKHI LETTER:VA,SHA"]⟩,
    ⟨0x0a38, 0x0a39, ["GURMUKHI LETTER:SA,HA"]⟩,
    ⟨0x0a3c, 0x0a3c, [":GURMUKHI SIGN NUKTA"]⟩,
    ⟨0x0a3e, 0x0a42, ["GURMUKHI VOWEL SIGN:AA,I,II,U,UU"]⟩,
    ⟨0x0a47, 0x0a48, ["GURMUKHI VOWEL SIGN:EE,AI"]⟩,
    ⟨0x0a4b, 0x0a4d, ["GURMUKHI:VOWEL SIGN OO,VOWEL SIGN AU,SIGN VIRAMA"]⟩,
    ⟨0x0a51, 0x0a51, [":GURMUKHI SIGN UDAAT"]⟩,
    ⟨0x0a59, 0x0a5c, ["GURMUKHI LETTER:KHHA,GHHA,ZA,RRA"]⟩,
    ⟨0x0a5e, 0x0a5e, [":GURMUKHI LETTER FA"]⟩,
    ⟨0x0a66, 0x0a76, ["GURMUKHI:DIGIT ZERO,DIGIT ONE,DIGIT TWO,DIGIT THREE,DIGIT FOUR,DIGIT FIVE",
      "DIGIT SIX,DIGIT SEVEN,DIGIT EIGHT,DIGIT NINE,TIPPI,ADDAK,IRI,URA,EK ONKAR,SIGN YAKASH",
      "ABBREVIATION SIGN"]⟩,
    ⟨0x0a81, 0x0a83, ["GUJARATI SIGN:CANDRABINDU,ANUSVARA,VISARGA"]⟩,
    ⟨0x0a85, 0x0a8d, ["GUJARATI:LETTER A,LETTER AA,LETTER I,LETTER II,LETTER U,LETTER UU",
      "LETTER VOCALIC R,LETTER VOCALIC L,VOWEL CANDRA E"]⟩,
    ⟨0x0a8f, 0x0a91, ["GUJARATI:LETTER E,LETTER AI,VOWEL CANDRA O"]⟩,
    ⟨0x0a93, 0x0aa8, ["GUJARATI LETTER:O,AU,KA,KHA,GA,GHA,NGA,CA,CHA,JA,JHA,NYA,TTA,TTHA,DDA,DDHA",
      "NNA,TA,THA,DA,DHA,NA"]⟩,
    ⟨0x0aaa, 0x0ab0, ["GUJARATI LETTER:PA,PHA,BA,BHA,MA,YA,RA"]⟩,
    ⟨0x0ab2, 0x0ab3, ["GUJARATI LETTER:LA,LLA"]⟩,
    ⟨0x0ab5, 0x0ab9, ["GUJARATI LETTER:VA,SHA,SSA,SA,HA"]⟩,
    ⟨0x0abc, 0x0abd, ["GUJARATI SIGN:NUKTA,AVAGRAHA"]⟩,
    ⟨0x0abe, 0x0ac5, ["GUJARATI VOWEL SIGN:AA,I,II,U,UU,VOCALIC R,VOCALIC RR,CANDRA E"]⟩,
    ⟨0x0ac7, 0x0ac9, ["GUJARATI VOWEL SIGN:E,AI,CANDRA O"]⟩,
    ⟨0x0acb, 0x0acd, ["GUJARATI:VOWEL SIGN O,VOWEL SIGN AU,SIGN VIRAMA"]⟩,
    ⟨0x0ad0, 0x0ad0, [":GUJARATI OM"]⟩,
    ⟨0x0ae0, 0x0ae3, ["GUJARATI:LETTER VOCALIC RR,LETTER VOCALIC LL,VOWEL SIGN VOCALIC L",
      "VOWEL SIGN VOCALIC LL"]⟩,
    ⟨0x0ae6, 0x0af1, ["GUJARATI:DIGIT ZERO,DIGIT ONE,DIGIT TWO,DIGIT THREE,DIGIT FOUR,DIGIT FIVE",
      "DIGIT SIX,DIGIT SEVEN,DIGIT EIGHT,DIGIT NINE,ABBREVIATION SIGN,RUPEE SIGN"]⟩,
    ⟨0x0af9, 0x0aff, ["GUJARATI:LETTER ZHA,SIGN SUKUN,SIGN SHADDA,SIGN MADDAH",
      "SIGN THREE-DOT NUKTA ABOVE,SIGN CIRCLE NUKTA ABOVE,SIGN TWO-CIRCLE NUKTA ABOVE"]⟩,
    ⟨0x0b01, 0x0b03, ["ORIYA SIGN:CANDRABINDU,ANUSVARA,VISARGA"]⟩,
    ⟨0x0b05, 0x0b0c, ["ORIYA LETTER:A,AA,I,II,U,UU,VOCALIC R,VOCALIC L"]⟩,
    ⟨0x0b0f, 0x0b10, ["ORIYA LETTER:E,AI"]⟩,
    ⟨0x0b13, 0x0b28, ["ORIYA LETTER:O,AU,KA,KHA,GA,GHA,NGA,CA,CHA,JA,JHA,NYA,TTA,TTHA,DDA,DDHA,NNA",
      "TA,THA,DA,DHA,NA"]⟩,
    ⟨0x0b2a, 0x0b30, ["ORIYA LETTER:PA,PHA,BA,BHA,MA,YA,RA"]⟩,
    ⟨0x0b32, 0x0b33, ["ORIYA LETTER:LA,LLA"]⟩,
    ⟨0x0b35, 0x0b39, ["ORIYA LETTER:VA,SHA,SSA,SA,HA"]⟩,
    ⟨0x0b3c, 0x0b3d, ["ORIYA SIGN:NUKTA,AVAGRAHA"]⟩,
    ⟨0x0b3e, 0x0b44, ["ORIYA VOWEL SIGN:AA,I,II,U,UU,VOCALIC R,VOCALIC RR"]⟩,
    ⟨0x0b47, 0x0b48, ["ORIYA VOWEL SIGN:E,AI"]⟩,
    ⟨0x0b4b, 0x0b4d, ["ORIYA:VOWEL SIGN O,VOWEL SIGN AU,SIGN VIRAMA"]⟩,
    ⟨0x0b55, 0x0b57, ["ORIYA:SIGN OVERLINE,AI LENGTH MARK,AU LENGTH MARK"]⟩,
    ⟨0x0b5c, 0x0b5d, ["ORIYA LETTER:RRA,RHA"]⟩,
    ⟨0x0b5f, 0x0b63, ["ORIYA:LETTER YYA,LETTER VOCALIC RR,LETTER VOCALIC LL,VOWEL SIGN VOCALIC L",
      "VOWEL SIGN VOCALIC LL"]⟩,
    ⟨0x0b66, 0x0b77, ["ORIYA:DIGIT ZERO,DIGIT ONE,DIGIT TWO,DIGIT THREE,DIGIT FOUR,DIGIT FIVE",
      "DIGIT SIX,DIGIT SEVEN,DIGIT EIGHT,DIGIT NINE,ISSHAR,LETTER WA,FRACTION ONE QUARTER",
      "FRACTION ONE HALF,FRACTION THREE QUARTERS,FRACTION ONE SIXTEENTH,FRACTION ONE EIGHTH",
      "FRACTION THREE SIXTEENTHS"]⟩,
    ⟨0x0b82, 0x0b83, ["TAMIL SIGN:ANUSVARA,VISARGA"]⟩,
    ⟨0x0b85, 0x0b8a, ["TAMIL LETTER:A,AA,I,II,U,UU"]⟩,
    ⟨0x0b8e, 0x0b90, ["TAMIL LETTER:E,EE,AI"]⟩,
    ⟨0x0b92, 0x0b95, ["TAMIL LETTER:O,OO,AU,KA"]⟩,
    ⟨0x0b99, 0x0b9a, ["TAMIL LETTER:NGA,CA"]⟩,
    ⟨0x0b9c, 0x0b9c, [":TAMIL LETTER JA"]⟩,
    ⟨0x0b9e, 0x0b9f, ["TAMIL LETTER:NYA,TTA"]⟩,
    ⟨0x0ba3, 0x0ba4, ["TAMIL LETTER:NNA,TA"]⟩,
    ⟨0x0ba8, 0x0baa, ["TAMIL LETTER:NA,NNNA,PA"]⟩,
    ⟨0x0bae, 0x0bb9, ["TAMIL LETTER:MA,YA,RA,RRA,LA,LLA,LLLA,VA,SHA,SSA,SA,HA"]⟩,
    ⟨0x0bbe, 0x0bc2, ["TAMIL VOWEL SIGN:AA,I,II,U,UU"]⟩,
    ⟨0x0bc6, 0x0bc8, ["TAMIL VOWEL SIGN:E,EE,AI"]⟩,
    ⟨0x0bca, 0x0bcd, ["TAMIL:VOWEL SIGN O,VOWEL SIGN OO,VOWEL SIGN AU,SIGN VIRAMA"]⟩,
    ⟨0x0bd0, 0x0bd0, [":TAMIL OM"]⟩,
    ⟨0x0bd7, 0x0bd7, [":TAMIL AU LENGTH MARK"]⟩,
    ⟨0x0be6, 0x0bfa, ["TAMIL:DIGIT ZERO,DIGIT ONE,DIGIT TWO,DIGIT THREE,DIGIT FOUR,DIGIT FIVE",
      "DIGIT SIX,DIGIT SEVEN,DIGIT EIGHT,DIGIT NINE,NUMBER TEN,NUMBER ONE HUNDRED",
      "NUMBER ONE THOUSAND,DAY SIGN,MONTH SIGN,YEAR SIGN,DEBIT SIGN,CREDIT SIGN,AS ABOVE SIGN",
      "RUPEE SIGN,NUMBER SIGN"]⟩,
    ⟨0x0c00, 0x0c04, ["TELUGU SIGN:COMBINING CANDRABINDU ABOVE,CANDRABINDU,ANUSVARA,VISARGA",
      "COMBINING ANUSVARA ABOVE"]⟩,
    ⟨0x0c05, 0x0c0c, ["TELUGU LETTER:A,AA,I,II,U,UU,VOCALIC R,VOCALIC L"]⟩,
    ⟨0x0c0e, 0x0c10, ["TELUGU LETTER:E,EE,AI"]⟩,
    ⟨0x0c12, 0x0c28, ["TELUGU LETTER:O,OO,AU,KA,KHA,GA,GHA,NGA,CA,CHA,JA,JHA,NYA,TTA,TTHA,DDA,DDHA",
      "NNA,TA,THA,DA,DHA,NA"]⟩,
    ⟨0x0c2a, 0x0c39, ["TELUGU LETTER:PA,PHA,BA,BHA,MA,YA,RA,RRA,LA,LLA,LLLA,VA,SHA,SSA,SA,HA"]⟩,
    ⟨0x0c3c, 0x0c3d, ["TELUGU SIGN:NUKTA,AVAGRAHA"]⟩,
    ⟨0x0c3e, 0x0c44, ["TELUGU VOWEL SIGN:AA,I,II,U,UU,VOCALIC R,VOCALIC RR"]⟩,
    ⟨0x0c46, 0x0c48, ["TELUGU VOWEL SIGN:E,EE,AI"]⟩,
    ⟨0x0c4a, 0x0c4d, ["TELUGU:VOWEL SIGN O,VOWEL SIGN OO,VOWEL SIGN AU,SIGN VIRAMA"]⟩,
    ⟨0x0c55, 0x0c56, ["TELUGU:LENGTH MARK,AI LENGTH MARK"]⟩,
    ⟨0x0c58, 0x0c5a, ["TELUGU LETTER:TSA,DZA,RRRA"]⟩,
    ⟨0x0c5d, 0x0c5d, [":TELUGU LETTER NAKAARA POLLU"]⟩,
    ⟨0x0c60, 0x0c63, ["TELUGU:LETTER VOCALIC RR,LETTER VOCALIC LL,VOWEL SIGN VOCALIC L",
      "VOWEL SIGN VOCALIC LL"]⟩,
    ⟨0x0c66, 0x0c6f, ["TELUGU DIGIT:ZERO,ONE,TWO,THREE,FOUR,FIVE,SIX,SEVEN,EIGHT,NINE"]⟩,
    ⟨0x0c77, 0x0c7f, ["TELUGU:SIGN SIDDHAM,FRACTION DIGIT ZERO FOR ODD POWERS OF FOUR",
      "FRACTION DIGIT ONE FOR ODD POWERS OF FOUR,FRACTION DIGIT TWO FOR ODD POWERS OF FOUR",
      "FRACTION DIGIT THREE FOR ODD POWERS OF FOUR,FRACTION DIGIT ONE FOR EVEN POWERS OF FOUR",
      "FRACTION DIGIT TWO FOR EVEN POWERS OF FOUR,FRACTION DIGIT THREE FOR EVEN POWERS OF FOUR",
      "SIGN TUUMU"]⟩,
    ⟨0x0c80, 0x0c84, ["KANNADA SIGN:SPACING CANDRABINDU,CANDRABINDU,ANUSVARA,VISARGA,SIDDHAM"]⟩,
    ⟨0x0c85, 0x0c8c, ["KANNADA LETTER:A,AA,I,II,U,UU,VOCALIC R,VOCALIC L"]⟩,
    ⟨0x0c8e, 0x0c90, ["KANNADA LETTER:E,EE,AI"]⟩,
    ⟨0x0c92, 0x0ca8, ["KANNADA LETTER:O,OO,AU,KA,KHA,GA,GHA,NGA,CA,CHA,JA,JHA,NYA,TTA,TTHA,DDA",
      "DDHA,NNA,TA,THA,DA,DHA,NA"]⟩,
    ⟨0x0caa, 0x0cb3, ["KANNADA LETTER:PA,PHA,BA,BHA,MA,YA,RA,RRA,LA,LLA"]⟩,
    ⟨0x0cb5, 0x0cb9, ["KANNADA LETTER:VA,SHA,SSA,SA,HA"]⟩,
    ⟨0x0cbc, 0x0cbd, ["KANNADA SIGN:NUKTA,AVAGRAHA"]⟩,
    ⟨0x0cbe, 0x0cc4, ["KANNADA VOWEL SIGN:AA,I,II,U,UU,VOCALIC R,VOCALIC RR"]⟩,
    ⟨0x0cc6, 0x0cc8, ["KANNADA VOWEL SIGN:E,EE,AI"]⟩,
    ⟨0x0cca, 0x0ccd, ["KANNADA:VOWEL SIGN O,VOWEL SIGN OO,VOWEL SIGN AU,SIGN VIRAMA"]⟩,
    ⟨0x0cd5, 0x0cd6, ["KANNADA:LENGTH MARK,AI LENGTH MARK"]⟩,
    ⟨0x0cdd, 0x0cde, ["KANNADA LETTER:NAKAARA POLLU,FA"]⟩,
    ⟨0x0ce0, 0x0ce3, ["KANNADA:LETTER VOCALIC RR,LETTER VOCALIC LL,VOWEL SIGN VOCALIC L",
      "VOWEL SIGN VOCALIC LL"]⟩,
    ⟨0x0ce6, 0x0cef, ["KANNADA DIGIT:ZERO,ONE,TWO,THREE,FOUR,FIVE,SIX,SEVEN,EIGHT,NINE"]⟩,
    ⟨0x0cf1, 0x0cf2, ["KANNADA SIGN:JIHVAMULIYA,UPADHMANIYA"]⟩,
    ⟨0x0d00, 0x0d03, ["MALAYALAM SIGN:COMBINING ANUSVARA ABOVE,CANDRABINDU,ANUSVARA,VISARGA"]⟩,
    ⟨0x0d04, 0x0d0c, ["MALAYALAM LETTER:VEDIC ANUSVARA,A,AA,I,II,U,UU,VOCALIC R,VOCALIC L"]⟩,
    ⟨0x0d0e, 0x0d10, ["MALAYALAM LETTER:E,EE,AI"]⟩,
    ⟨0x0d12, 0x0d3a, ["MALAYALAM LETTER:O,OO,AU,KA,KHA,GA,GHA,NGA,CA,CHA,JA,JHA,NYA,TTA,TTHA,DDA",
      "DDHA,NNA,TA,THA,DA,DHA,NA,NNNA,PA,PHA,BA,BHA,MA,YA,RA,RRA,LA,LLA,LLLA,VA,SHA,SSA,SA,HA",
      "TTTA"]⟩,
    ⟨0x0d3b, 0x0d3d, ["MALAYALAM SIGN:VERTICAL BAR VIRAMA,CIRCULAR VIRAMA,AVAGRAHA"]⟩,
    ⟨0x0d3e, 0x0d44, ["MALAYALAM VOWEL SIGN:AA,I,II,U,UU,VOCALIC R,VOCALIC RR"]⟩,
    ⟨0x0d46, 0x0d48, ["MALAYALAM VOWEL SIGN:E,EE,AI"]⟩,
    ⟨0x0d4a, 0x0d4f, ["MALAYALAM:VOWEL SIGN O,VOWEL SIGN OO,VOWEL SIGN AU,SIGN VIRAMA",
      "LETTER DOT REPH,SIGN PARA"]⟩,
    ⟨0x0d54, 0x0d63, ["MALAYALAM:LETTER CHILLU M,LETTER CHILLU Y,LETTER CHILLU LLL,AU LENGTH MARK",
      "FRACTION ONE ONE-HUNDRED-AND-SIXTIETH,FRACTION ONE FORTIETH,FRACTION THREE EIGHTIETHS",
      "FRACTION ONE TWENTIETH,FRACTION ONE TENTH,FRACTION THREE TWENTIETHS,FRACTION ONE FIFTH",
      "LETTER ARCHAIC II,LETTER VOCALIC RR,LETTER VOCALIC LL,VOWEL SIGN VOCALIC L",
      "VOWEL SIGN VOCALIC LL"]⟩,
    ⟨0x0d66, 0x0d7f, ["MALAYALAM:DIGIT ZERO,DIGIT ONE,DIGIT TWO,DIGIT THREE,DIGIT FOUR,DIGIT FIVE",
      "DIGIT SIX,DIGIT SEVEN,DIGIT EIGHT,DIGIT NINE,NUMBER TEN,NUMBER ONE HUNDRED",
      "NUMBER ONE THOUSAND,FRACTION ONE QUARTER,FRACTION ONE HALF,FRACTION THREE QUARTERS",
      "FRACTION ONE SIXTEENTH,FRACTION ONE EIGHTH,FRACTION THREE SIXTEENTHS,DATE MARK",
      "LETTER CHILLU NN,LETTER CHILLU N,LETTER CHILLU RR,LETTER CHILLU L,LETTER CHILLU LL",
      "LETTER CHILLU K"]⟩,
    ⟨0x0d81, 0x0d83, ["SINHALA SIGN:CANDRABINDU,ANUSVARAYA,VISARGAYA"]⟩,
    ⟨0x0d85, 0x0d96, ["SINHALA LETTER:AYANNA,AAYANNA,AEYANNA,AEEYANNA,IYANNA,IIYANNA,UYANNA",
      "UUYANNA,IRUYANNA,IRUUYANNA,ILUYANNA,ILUUYANNA,EYANNA,EEYANNA,AIYANNA,OYANNA,OOYANNA",
      "AUYANNA"]⟩,
    ⟨0x0d9a, 0x0db1, ["SINHALA LETTER:ALPAPRAANA KAYANNA,MAHAAPRAANA KAYANNA,ALPAPRAANA GAYANNA",
      "MAHAAPRAANA GAYANNA,KANTAJA NAASIKYAYA,SANYAKA GAYANNA,ALPAPRAANA CAYANNA",
      "MAHAAPRAANA CAYANNA,ALPAPRAANA JAYANNA,MAHAAPRAANA JAYANNA,TAALUJA NAASIKYAYA",
      "TAALUJA SANYOOGA NAAKSIKYAYA,SANYAKA JAYANNA,ALPAPRAANA TTAYANNA,MAHAAPRAANA TTAYANNA",
      "ALPAPRAANA DDAYANNA,MAHAAPRAANA DDAYANNA,MUURDHAJA NAYANNA,SANYAKA DDAYANNA",
      "ALPAPRAANA TAYANNA,MAHAAPRAANA TAYANNA,ALPAPRAANA DAYANNA,MAHAAPRAANA DAYANNA",
      "DANTAJA NAYANNA"]⟩,
    ⟨0x0db3, 0x0dbb, ["SINHALA LETTER:SANYAKA DAYANNA,ALPAPRAANA PAYANNA,MAHAAPRAANA PAYANNA",
      "ALPAPRAANA BAYANNA,MAHAAPRAANA BAYANNA,MAYANNA,AMBA BAYANNA,YAYANNA,RAYANNA"]⟩,
    ⟨0x0dbd, 0x0dbd, [":SINHALA LETTER DANTAJA LAYANNA"]⟩,
    ⟨0x0dc0, 0x0dc6, ["SINHALA LETTER:VAYANNA,TAALUJA SAYANNA,MUURDHAJA SAYANNA,DANTAJA SAYANNA",
      "HAYANNA,MUURDHAJA LAYANNA,FAYANNA"]⟩,
    ⟨0x0dca, 0x0dca, [":SINHALA SIGN AL-LAKUNA"]⟩,
    ⟨0x0dcf, 0x0dd4, ["SINHALA VOWEL SIGN:AELA-PILLA,KETTI AEDA-PILLA,DIGA AEDA-PILLA",
      "KETTI IS-PILLA,DIGA IS-PILLA,KETTI PAA-PILLA"]⟩,
    ⟨0x0dd6, 0x0dd6, [":SINHALA VOWEL SIGN DIGA PAA-PILLA"]⟩,
    ⟨0x0dd8, 0x0ddf, ["SINHALA VOWEL SIGN:GAETTA-PILLA,KOMBUVA,DIGA KOMBUVA,KOMBU DEKA",
      "KOMBUVA HAA AELA-PILLA,KOMBUVA HAA DIGA AELA-PILLA,KOMBUVA HAA GAYANUKITTA,GAYANUKITTA"]⟩,
    ⟨0x0de6, 0x0def, ["SINHALA LITH DIGIT:ZERO,ONE,TWO,THREE,FOUR,FIVE,SIX,SEVEN,EIGHT,NINE"]⟩,
    ⟨0x0df2, 0x0df4, ["SINHALA:VOWEL SIGN DIGA GAETTA-PILLA,VOWEL SIGN DIGA GAYANUKITTA",
      "PUNCTUATION KUNDDALIYA"]⟩]

end CellWidth.Unicode.NameRun
