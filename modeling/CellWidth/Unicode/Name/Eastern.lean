import CellWidth.Unicode.Name.Run

/-!
# Names: eastern

The names of characters of the scripts between Thai and Ol Chiki, with Hangul letters, Ethiopic and
Canadian syllabics, from U+0E01 to U+1CFA.
-/

namespace CellWidth.Unicode.NameRun

/-- The runs of this part of the code space, in ascending order. -/
def eastern : List NameRun :=
  [⟨0x0e01, 0x0e3a, ["THAI CHARACTER:KO KAI,KHO KHAI,KHO KHUAT,KHO KHWAI,KHO KHON,KHO RAKHANG",
      "NGO NGU,CHO CHAN,CHO CHING,CHO CHANG,SO SO,CHO CHOE,YO YING,DO CHADA,TO PATAK,THO THAN",
      "THO NANGMONTHO,THO PHUTHAO,NO NEN,DO DEK,TO TAO,THO THUNG,THO THAHAN,THO THONG,NO NU",
      "BO BAIMAI,PO PLA,PHO PHUNG,FO FA,PHO PHAN,FO FAN,PHO SAMPHAO,MO MA,YO YAK,RO RUA,RU,LO LING",
      "LU,WO WAEN,SO SALA,SO RUSI,SO SUA,HO HIP,LO CHULA,O ANG,HO NOKHUK,PAIYANNOI,SARA A",
      "MAI HAN-AKAT,SARA AA,SARA AM,SARA I,SARA II,SARA UE,SARA UEE,SARA U,SARA UU,PHINTHU"]⟩,
    ⟨0x0e3f, 0x0e3f, [":THAI CURRENCY SYMBOL BAHT"]⟩,
    ⟨0x0e40, 0x0e4f, ["THAI CHARACTER:SARA E,SARA AE,SARA O,SARA AI MAIMUAN,SARA AI MAIMALAI",
      "LAKKHANGYAO,MAIYAMOK,MAITAIKHU,MAI EK,MAI THO,MAI TRI,MAI CHATTAWA,THANTHAKHAT,NIKHAHIT",
      "YAMAKKAN,FONGMAN"]⟩,
    ⟨0x0e50, 0x0e5b, ["THAI:DIGIT ZERO,DIGIT ONE,DIGIT TWO,DIGIT THREE,DIGIT FOUR,DIGIT FIVE",
      "DIGIT SIX,DIGIT SEVEN,DIGIT EIGHT,DIGIT NINE,CHARACTER ANGKHANKHU,CHARACTER KHOMUT"]⟩,
    ⟨0x0e81, 0x0e82, ["LAO LETTER:KO,KHO SUNG"]⟩,
    ⟨0x0e84, 0x0e84, [":LAO LETTER KHO TAM"]⟩,
    ⟨0x0e86, 0x0e8a, ["LAO LETTER:PALI GHA,NGO,CO,PALI CHA,SO TAM"]⟩,
    ⟨0x0e8c, 0x0ea3, ["LAO LETTER:PALI JHA,NYO,PALI NYA,PALI TTA,PALI TTHA,PALI DDA,PALI DDHA",
      "PALI NNA,DO,TO,THO SUNG,THO TAM,PALI DHA,NO,BO,PO,PHO SUNG,FO TAM,PHO TAM,FO SUNG,PALI BHA",
      "MO,YO,LO LING"]⟩,
    ⟨0x0ea5, 0x0ea5, [":LAO LETTER LO LOOT"]⟩,
    ⟨0x0ea7, 0x0ebd, ["LAO:LETTER WO,LETTER SANSKRIT SHA,LETTER SANSKRIT SSA,LETTER SO SUNG",
      "LETTER HO SUNG,LETTER PALI LLA,LETTER O,LETTER HO TAM,ELLIPSIS,VOWEL SIGN A",
      "VOWEL SIGN MAI KAN,VOWEL SIGN AA,VOWEL SIGN AM,VOWEL SIGN I,VOWEL SIGN II,VOWEL SIGN Y",
      "VOWEL SIGN YY,VOWEL SIGN U,VOWEL SIGN UU,SIGN PALI VIRAMA,VOWEL SIGN MAI KON",
      "SEMIVOWEL SIGN LO,SEMIVOWEL SIGN NYO"]⟩,
    ⟨0x0ec0, 0x0ec4, ["LAO VOWEL SIGN:E,EI,O,AY,AI"]⟩,
    ⟨0x0ec6, 0x0ec6, [":LAO KO LA"]⟩,
    ⟨0x0ec8, 0x0ecd, ["LAO:TONE MAI EK,TONE MAI THO,TONE MAI TI,TONE MAI CATAWA,CANCELLATION MARK",
      "NIGGAHITA"]⟩,
    ⟨0x0ed0, 0x0ed9, ["LAO DIGIT:ZERO,ONE,TWO,THREE,FOUR,FIVE,SIX,SEVEN,EIGHT,NINE"]⟩,
    ⟨0x0edc, 0x0edf, ["LAO:HO NO,HO MO,LETTER KHMU GO,LETTER KHMU NYO"]⟩,
    ⟨0x0f00, 0x0f47, ["TIBETAN:SYLLABLE OM,MARK GTER YIG MGO TRUNCATED A",
      "MARK GTER YIG MGO -UM RNAM BCAD MA,MARK GTER YIG MGO -UM GTER TSHEG MA",
      "MARK INITIAL YIG MGO MDUN MA,MARK CLOSING YIG MGO SGAB MA,MARK CARET YIG MGO PHUR SHAD MA",
      "MARK YIG MGO TSHEG SHAD MA,MARK SBRUL SHAD,MARK BSKUR YIG MGO,MARK BKA- SHOG YIG MGO",
      "MARK INTERSYLLABIC TSHEG,MARK DELIMITER TSHEG BSTAR,MARK SHAD,MARK NYIS SHAD",
      "MARK TSHEG SHAD,MARK NYIS TSHEG SHAD,MARK RIN CHEN SPUNGS SHAD,MARK RGYA GRAM SHAD",
      "MARK CARET -DZUD RTAGS ME LONG CAN,MARK GTER TSHEG,LOGOTYPE SIGN CHAD RTAGS",
      "LOGOTYPE SIGN LHAG RTAGS,ASTROLOGICAL SIGN SGRA GCAN -CHAR RTAGS",
      "ASTROLOGICAL SIGN -KHYUD PA,ASTROLOGICAL SIGN SDONG TSHUGS,SIGN RDEL DKAR GCIG",
      "SIGN RDEL DKAR GNYIS,SIGN RDEL DKAR GSUM,SIGN RDEL NAG GCIG,SIGN RDEL NAG GNYIS",
      "SIGN RDEL DKAR RDEL NAG,DIGIT ZERO,DIGIT ONE,DIGIT TWO,DIGIT THREE,DIGIT FOUR,DIGIT FIVE",
      "DIGIT SIX,DIGIT SEVEN,DIGIT EIGHT,DIGIT NINE,DIGIT HALF ONE,DIGIT HALF TWO,DIGIT HALF THREE",
      "DIGIT HALF FOUR,DIGIT HALF FIVE,DIGIT HALF SIX,DIGIT HALF SEVEN,DIGIT HALF EIGHT",
      "DIGIT HALF NINE,DIGIT HALF ZERO,MARK BSDUS RTAGS,MARK NGAS BZUNG NYI ZLA",
      "MARK CARET -DZUD RTAGS BZHI MIG CAN,MARK NGAS BZUNG SGOR RTAGS,MARK CHE MGO,MARK TSA -PHRU",
      "MARK GUG RTAGS GYON,MARK GUG RTAGS GYAS,MARK ANG KHANG GYON,MARK ANG KHANG GYAS",
      "SIGN YAR TSHES,SIGN MAR TSHES,LETTER KA,LETTER KHA,LETTER GA,LETTER GHA,LETTER NGA",
      "LETTER CA,LETTER CHA,LETTER JA"]⟩,
    ⟨0x0f49, 0x0f6c, ["TIBETAN LETTER:NYA,TTA,TTHA,DDA,DDHA,NNA,TA,THA,DA,DHA,NA,PA,PHA,BA,BHA,MA",
      "TSA,TSHA,DZA,DZHA,WA,ZHA,ZA,-A,YA,RA,LA,SHA,SSA,SA,HA,A,KSSA,FIXED-FORM RA,KKA,RRA"]⟩,
    ⟨0x0f71, 0x0f7d, ["TIBETAN VOWEL SIGN:AA,I,II,U,UU,VOCALIC R,VOCALIC RR,VOCALIC L,VOCALIC LL,E",
      "EE,O,OO"]⟩,
    ⟨0x0f7e, 0x0f8f, ["TIBETAN:SIGN RJES SU NGA RO,SIGN RNAM BCAD,VOWEL SIGN REVERSED I",
      "VOWEL SIGN REVERSED II,SIGN NYI ZLA NAA DA,SIGN SNA LDAN,MARK HALANTA,MARK PALUTA",
      "SIGN LCI RTAGS,SIGN YANG RTAGS,SIGN LCE TSA CAN,SIGN MCHU CAN,SIGN GRU CAN RGYINGS",
      "SIGN GRU MED RGYINGS,SIGN INVERTED MCHU CAN,SUBJOINED SIGN LCE TSA CAN",
      "SUBJOINED SIGN MCHU CAN,SUBJOINED SIGN INVERTED MCHU CAN"]⟩,
    ⟨0x0f90, 0x0f97, ["TIBETAN SUBJOINED LETTER:KA,KHA,GA,GHA,NGA,CA,CHA,JA"]⟩,
    ⟨0x0f99, 0x0fbc, ["TIBETAN SUBJOINED LETTER:NYA,TTA,TTHA,DDA,DDHA,NNA,TA,THA,DA,DHA,NA,PA,PHA",
      "BA,BHA,MA,TSA,TSHA,DZA,DZHA,WA,ZHA,ZA,-A,YA,RA,LA,SHA,SSA,SA,HA,A,KSSA,FIXED-FORM WA",
      "FIXED-FORM YA,FIXED-FORM RA"]⟩,
    ⟨0x0fbe, 0x0fcc, ["TIBETAN:KU RU KHA,KU RU KHA BZHI MIG CAN,CANTILLATION SIGN HEAVY BEAT",
      "CANTILLATION SIGN LIGHT BEAT,CANTILLATION SIGN CANG TE-U,CANTILLATION SIGN SBUB -CHAL",
      "SYMBOL DRIL BU,SYMBOL RDO RJE,SYMBOL PADMA GDAN,SYMBOL RDO RJE RGYA GRAM,SYMBOL PHUR PA",
      "SYMBOL NOR BU,SYMBOL NOR BU NYIS -KHYIL,SYMBOL NOR BU GSUM -KHYIL",
      "SYMBOL NOR BU BZHI -KHYIL"]⟩,
    ⟨0x0fce, 0x0fda, [":TIBETAN SIGN RDEL NAG RDEL DKAR,TIBETAN SIGN RDEL NAG GSUM",
      "TIBETAN MARK BSKA- SHOG GI MGO RGYAN,TIBETAN MARK MNYAM YIG GI MGO RGYAN",
      "TIBETAN MARK NYIS TSHEG,TIBETAN MARK INITIAL BRDA RNYING YIG MGO MDUN MA",
      "TIBETAN MARK CLOSING BRDA RNYING YIG MGO SGAB MA,RIGHT-FACING SVASTI SIGN",
      "LEFT-FACING SVASTI SIGN,RIGHT-FACING SVASTI SIGN WITH DOTS",
      "LEFT-FACING SVASTI SIGN WITH DOTS,TIBETAN MARK LEADING MCHAN RTAGS",
      "TIBETAN MARK TRAILING MCHAN RTAGS"]⟩,
    ⟨0x1000, 0x102a, ["MYANMAR LETTER:KA,KHA,GA,GHA,NGA,CA,CHA,JA,JHA,NYA,NNYA,TTA,TTHA,DDA,DDHA",
      "NNA,TA,THA,DA,DHA,NA,PA,PHA,BA,BHA,MA,YA,RA,LA,WA,SA,HA,LLA,A,SHAN A,I,II,U,UU,E,MON E,O",
      "AU"]⟩,
    ⟨0x102b, 0x1035, ["MYANMAR VOWEL SIGN:TALL AA,AA,I,II,U,UU,E,AI,MON II,MON O,E ABOVE"]⟩,
    ⟨0x1036, 0x1074, ["MYANMAR:SIGN ANUSVARA,SIGN DOT BELOW,SIGN VISARGA,SIGN VIRAMA,SIGN ASAT",
      "CONSONANT SIGN MEDIAL YA,CONSONANT SIGN MEDIAL RA,CONSONANT SIGN MEDIAL WA",
      "CONSONANT SIGN MEDIAL HA,LETTER GREAT SA,DIGIT ZERO,DIGIT ONE,DIGIT TWO,DIGIT THREE",
      "DIGIT FOUR,DIGIT FIVE,DIGIT SIX,DIGIT SEVEN,DIGIT EIGHT,DIGIT NINE,SIGN LITTLE SECTION",
      "SIGN SECTION,SYMBOL LOCATIVE,SYMBOL COMPLETED,SYMBOL AFOREMENTIONED,SYMBOL GENITIVE",
      "LETTER SHA,LETTER SSA,LETTER VOCALIC R,LETTER VOCALIC RR,LETTER VOCALIC L,LETTER VOCALIC LL",
      "VOWEL SIGN VOCALIC R,VOWEL SIGN VOCALIC RR,VOWEL SIGN VOCALIC L,VOWEL SIGN VOCALIC LL",
      "LETTER MON NGA,LETTER MON JHA,LETTER MON BBA,LETTER MON BBE,CONSONANT SIGN MON MEDIAL NA",
      "CONSONANT SIGN MON MEDIAL MA,CONSONANT SIGN MON MEDIAL LA,LETTER SGAW KAREN SHA",
      "VOWEL SIGN SGAW KAREN EU,TONE MARK SGAW KAREN HATHI,TONE MARK SGAW KAREN KE PHO",
      "LETTER WESTERN PWO KAREN THA,LETTER WESTERN PWO KAREN PWA,VOWEL SIGN WESTERN PWO KAREN EU",
      "VOWEL SIGN WESTERN PWO KAREN UE,SIGN WESTERN PWO KAREN TONE-1,SIGN WESTERN PWO KAREN TONE-2",
      "SIGN WESTERN PWO KAREN TONE-3,SIGN WESTERN PWO KAREN TONE-4,SIGN WESTERN PWO KAREN TONE-5",
      "LETTER EASTERN PWO KAREN NNA,LETTER EASTERN PWO KAREN YWA,LETTER EASTERN PWO KAREN GHWA",
      "VOWEL SIGN GEBA KAREN I,VOWEL SIGN KAYAH OE,VOWEL SIGN KAYAH U,VOWEL SIGN KAYAH EE"]⟩,
    ⟨0x1075, 0x1081, ["MYANMAR LETTER SHAN:KA,KHA,GA,CA,ZA,NYA,DA,NA,PHA,FA,BA,THA,HA"]⟩,
    ⟨0x1082, 0x109f, ["MYANMAR:CONSONANT SIGN SHAN MEDIAL WA,VOWEL SIGN SHAN AA,VOWEL SIGN SHAN E",
      "VOWEL SIGN SHAN E ABOVE,VOWEL SIGN SHAN FINAL Y,SIGN SHAN TONE-2,SIGN SHAN TONE-3",
      "SIGN SHAN TONE-5,SIGN SHAN TONE-6,SIGN SHAN COUNCIL TONE-2,SIGN SHAN COUNCIL TONE-3",
      "SIGN SHAN COUNCIL EMPHATIC TONE,LETTER RUMAI PALAUNG FA,SIGN RUMAI PALAUNG TONE-5",
      "SHAN DIGIT ZERO,SHAN DIGIT ONE,SHAN DIGIT TWO,SHAN DIGIT THREE,SHAN DIGIT FOUR",
      "SHAN DIGIT FIVE,SHAN DIGIT SIX,SHAN DIGIT SEVEN,SHAN DIGIT EIGHT,SHAN DIGIT NINE",
      "SIGN KHAMTI TONE-1,SIGN KHAMTI TONE-3,VOWEL SIGN AITON A,VOWEL SIGN AITON AI",
      "SYMBOL SHAN ONE,SYMBOL SHAN EXCLAMATION"]⟩,
    ⟨0x10a0, 0x10c5, ["GEORGIAN CAPITAL LETTER:AN,BAN,GAN,DON,EN,VIN,ZEN,TAN,IN,KAN,LAS,MAN,NAR,ON",
      "PAR,ZHAR,RAE,SAN,TAR,UN,PHAR,KHAR,GHAN,QAR,SHIN,CHIN,CAN,JIL,CIL,CHAR,XAN,JHAN,HAE,HE,HIE",
      "WE,HAR,HOE"]⟩,
    ⟨0x10c7, 0x10c7, [":GEORGIAN CAPITAL LETTER YN"]⟩,
    ⟨0x10cd, 0x10cd, [":GEORGIAN CAPITAL LETTER AEN"]⟩,
    ⟨0x10d0, 0x10fa, ["GEORGIAN LETTER:AN,BAN,GAN,DON,EN,VIN,ZEN,TAN,IN,KAN,LAS,MAN,NAR,ON,PAR",
      "ZHAR,RAE,SAN,TAR,UN,PHAR,KHAR,GHAN,QAR,SHIN,CHIN,CAN,JIL,CIL,CHAR,XAN,JHAN,HAE,HE,HIE,WE",
      "HAR,HOE,FI,YN,ELIFI,TURNED GAN,AIN"]⟩,
    ⟨0x10fb, 0x10ff, [":GEORGIAN PARAGRAPH SEPARATOR,MODIFIER LETTER GEORGIAN NAR",
      "GEORGIAN LETTER AEN,GEORGIAN LETTER HARD SIGN,GEORGIAN LETTER LABIAL SIGN"]⟩,
    ⟨0x1100, 0x115f, ["HANGUL CHOSEONG:KIYEOK,SSANGKIYEOK,NIEUN,TIKEUT,SSANGTIKEUT,RIEUL,MIEUM",
      "PIEUP,SSANGPIEUP,SIOS,SSANGSIOS,IEUNG,CIEUC,SSANGCIEUC,CHIEUCH,KHIEUKH,THIEUTH,PHIEUPH",
      "HIEUH,NIEUN-KIYEOK,SSANGNIEUN,NIEUN-TIKEUT,NIEUN-PIEUP,TIKEUT-KIYEOK,RIEUL-NIEUN,SSANGRIEUL",
      "RIEUL-HIEUH,KAPYEOUNRIEUL,MIEUM-PIEUP,KAPYEOUNMIEUM,PIEUP-KIYEOK,PIEUP-NIEUN,PIEUP-TIKEUT",
      "PIEUP-SIOS,PIEUP-SIOS-KIYEOK,PIEUP-SIOS-TIKEUT,PIEUP-SIOS-PIEUP,PIEUP-SSANGSIOS",
      "PIEUP-SIOS-CIEUC,PIEUP-CIEUC,PIEUP-CHIEUCH,PIEUP-THIEUTH,PIEUP-PHIEUPH,KAPYEOUNPIEUP",
      "KAPYEOUNSSANGPIEUP,SIOS-KIYEOK,SIOS-NIEUN,SIOS-TIKEUT,SIOS-RIEUL,SIOS-MIEUM,SIOS-PIEUP",
      "SIOS-PIEUP-KIYEOK,SIOS-SSANGSIOS,SIOS-IEUNG,SIOS-CIEUC,SIOS-CHIEUCH,SIOS-KHIEUKH",
      "SIOS-THIEUTH,SIOS-PHIEUPH,SIOS-HIEUH,CHITUEUMSIOS,CHITUEUMSSANGSIOS,CEONGCHIEUMSIOS",
      "CEONGCHIEUMSSANGSIOS,PANSIOS,IEUNG-KIYEOK,IEUNG-TIKEUT,IEUNG-MIEUM,IEUNG-PIEUP,IEUNG-SIOS",
      "IEUNG-PANSIOS,SSANGIEUNG,IEUNG-CIEUC,IEUNG-CHIEUCH,IEUNG-THIEUTH,IEUNG-PHIEUPH,YESIEUNG",
      "CIEUC-IEUNG,CHITUEUMCIEUC,CHITUEUMSSANGCIEUC,CEONGCHIEUMCIEUC,CEONGCHIEUMSSANGCIEUC",
      "CHIEUCH-KHIEUKH,CHIEUCH-HIEUH,CHITUEUMCHIEUCH,CEONGCHIEUMCHIEUCH,PHIEUPH-PIEUP",
      "KAPYEOUNPHIEUPH,SSANGHIEUH,YEORINHIEUH,KIYEOK-TIKEUT,NIEUN-SIOS,NIEUN-CIEUC,NIEUN-HIEUH",
      "TIKEUT-RIEUL,FILLER"]⟩,
    ⟨0x1160, 0x11a7, ["HANGUL JUNGSEONG:FILLER,A,AE,YA,YAE,EO,E,YEO,YE,O,WA,WAE,OE,YO,U,WEO,WE,WI",
      "YU,EU,YI,I,A-O,A-U,YA-O,YA-YO,EO-O,EO-U,EO-EU,YEO-O,YEO-U,O-EO,O-E,O-YE,O-O,O-U,YO-YA",
      "YO-YAE,YO-YEO,YO-O,YO-I,U-A,U-AE,U-EO-EU,U-YE,U-U,YU-A,YU-EO,YU-E,YU-YEO,YU-YE,YU-U,YU-I",
      "EU-U,EU-EU,YI-U,I-A,I-YA,I-O,I-U,I-EU,I-ARAEA,ARAEA,ARAEA-EO,ARAEA-U,ARAEA-I,SSANGARAEA",
      "A-EU,YA-U,YEO-YA,O-YA,O-YAE"]⟩,
    ⟨0x11a8, 0x11ff, ["HANGUL JONGSEONG:KIYEOK,SSANGKIYEOK,KIYEOK-SIOS,NIEUN,NIEUN-CIEUC",
      "NIEUN-HIEUH,TIKEUT,RIEUL,RIEUL-KIYEOK,RIEUL-MIEUM,RIEUL-PIEUP,RIEUL-SIOS,RIEUL-THIEUTH",
      "RIEUL-PHIEUPH,RIEUL-HIEUH,MIEUM,PIEUP,PIEUP-SIOS,SIOS,SSANGSIOS,IEUNG,CIEUC,CHIEUCH,KHIEUKH",
      "THIEUTH,PHIEUPH,HIEUH,KIYEOK-RIEUL,KIYEOK-SIOS-KIYEOK,NIEUN-KIYEOK,NIEUN-TIKEUT,NIEUN-SIOS",
      "NIEUN-PANSIOS,NIEUN-THIEUTH,TIKEUT-KIYEOK,TIKEUT-RIEUL,RIEUL-KIYEOK-SIOS,RIEUL-NIEUN",
      "RIEUL-TIKEUT,RIEUL-TIKEUT-HIEUH,SSANGRIEUL,RIEUL-MIEUM-KIYEOK,RIEUL-MIEUM-SIOS",
      "RIEUL-PIEUP-SIOS,RIEUL-PIEUP-HIEUH,RIEUL-KAPYEOUNPIEUP,RIEUL-SSANGSIOS,RIEUL-PANSIOS",
      "RIEUL-KHIEUKH,RIEUL-YEORINHIEUH,MIEUM-KIYEOK,MIEUM-RIEUL,MIEUM-PIEUP,MIEUM-SIOS",
      "MIEUM-SSANGSIOS,MIEUM-PANSIOS,MIEUM-CHIEUCH,MIEUM-HIEUH,KAPYEOUNMIEUM,PIEUP-RIEUL",
      "PIEUP-PHIEUPH,PIEUP-HIEUH,KAPYEOUNPIEUP,SIOS-KIYEOK,SIOS-TIKEUT,SIOS-RIEUL,SIOS-PIEUP",
      "PANSIOS,IEUNG-KIYEOK,IEUNG-SSANGKIYEOK,SSANGIEUNG,IEUNG-KHIEUKH,YESIEUNG,YESIEUNG-SIOS",
      "YESIEUNG-PANSIOS,PHIEUPH-PIEUP,KAPYEOUNPHIEUPH,HIEUH-NIEUN,HIEUH-RIEUL,HIEUH-MIEUM",
      "HIEUH-PIEUP,YEORINHIEUH,KIYEOK-NIEUN,KIYEOK-PIEUP,KIYEOK-CHIEUCH,KIYEOK-KHIEUKH",
      "KIYEOK-HIEUH,SSANGNIEUN"]⟩,
    ⟨0x1200, 0x1248, ["ETHIOPIC SYLLABLE:HA,HU,HI,HAA,HEE,HE,HO,HOA,LA,LU,LI,LAA,LEE,LE,LO,LWA,HHA",
      "HHU,HHI,HHAA,HHEE,HHE,HHO,HHWA,MA,MU,MI,MAA,MEE,ME,MO,MWA,SZA,SZU,SZI,SZAA,SZEE,SZE,SZO",
      "SZWA,RA,RU,RI,RAA,REE,RE,RO,RWA,SA,SU,SI,SAA,SEE,SE,SO,SWA,SHA,SHU,SHI,SHAA,SHEE,SHE,SHO",
      "SHWA,QA,QU,QI,QAA,QEE,QE,QO,QOA,QWA"]⟩,
    ⟨0x124a, 0x124d, ["ETHIOPIC SYLLABLE:QWI,QWAA,QWEE,QWE"]⟩,
    ⟨0x1250, 0x1256, ["ETHIOPIC SYLLABLE:QHA,QHU,QHI,QHAA,QHEE,QHE,QHO"]⟩,
    ⟨0x1258, 0x1258, [":ETHIOPIC SYLLABLE QHWA"]⟩,
    ⟨0x125a, 0x125d, ["ETHIOPIC SYLLABLE:QHWI,QHWAA,QHWEE,QHWE"]⟩,
    ⟨0x1260, 0x1288, ["ETHIOPIC SYLLABLE:BA,BU,BI,BAA,BEE,BE,BO,BWA,VA,VU,VI,VAA,VEE,VE,VO,VWA,TA",
      "TU,TI,TAA,TEE,TE,TO,TWA,CA,CU,CI,CAA,CEE,CE,CO,CWA,XA,XU,XI,XAA,XEE,XE,XO,XOA,XWA"]⟩,
    ⟨0x128a, 0x128d, ["ETHIOPIC SYLLABLE:XWI,XWAA,XWEE,XWE"]⟩,
    ⟨0x1290, 0x12b0, ["ETHIOPIC SYLLABLE:NA,NU,NI,NAA,NEE,NE,NO,NWA,NYA,NYU,NYI,NYAA,NYEE,NYE,NYO",
      "NYWA,GLOTTAL A,GLOTTAL U,GLOTTAL I,GLOTTAL AA,GLOTTAL EE,GLOTTAL E,GLOTTAL O,GLOTTAL WA,KA",
      "KU,KI,KAA,KEE,KE,KO,KOA,KWA"]⟩,
    ⟨0x12b2, 0x12b5, ["ETHIOPIC SYLLABLE:KWI,KWAA,KWEE,KWE"]⟩,
    ⟨0x12b8, 0x12be, ["ETHIOPIC SYLLABLE:KXA,KXU,KXI,KXAA,KXEE,KXE,KXO"]⟩,
    ⟨0x12c0, 0x12c0, [":ETHIOPIC SYLLABLE KXWA"]⟩,
    ⟨0x12c2, 0x12c5, ["ETHIOPIC SYLLABLE:KXWI,KXWAA,KXWEE,KXWE"]⟩,
    ⟨0x12c8, 0x12d6, ["ETHIOPIC SYLLABLE:WA,WU,WI,WAA,WEE,WE,WO,WOA,PHARYNGEAL A,PHARYNGEAL U",
      "PHARYNGEAL I,PHARYNGEAL AA,PHARYNGEAL EE,PHARYNGEAL E,PHARYNGEAL O"]⟩,
    ⟨0x12d8, 0x1310, ["ETHIOPIC SYLLABLE:ZA,ZU,ZI,ZAA,ZEE,ZE,ZO,ZWA,ZHA,ZHU,ZHI,ZHAA,ZHEE,ZHE,ZHO",
      "ZHWA,YA,YU,YI,YAA,YEE,YE,YO,YOA,DA,DU,DI,DAA,DEE,DE,DO,DWA,DDA,DDU,DDI,DDAA,DDEE,DDE,DDO",
      "DDWA,JA,JU,JI,JAA,JEE,JE,JO,JWA,GA,GU,GI,GAA,GEE,GE,GO,GOA,GWA"]⟩,
    ⟨0x1312, 0x1315, ["ETHIOPIC SYLLABLE:GWI,GWAA,GWEE,GWE"]⟩,
    ⟨0x1318, 0x135a, ["ETHIOPIC SYLLABLE:GGA,GGU,GGI,GGAA,GGEE,GGE,GGO,GGWAA,THA,THU,THI,THAA,THEE",
      "THE,THO,THWA,CHA,CHU,CHI,CHAA,CHEE,CHE,CHO,CHWA,PHA,PHU,PHI,PHAA,PHEE,PHE,PHO,PHWA,TSA,TSU",
      "TSI,TSAA,TSEE,TSE,TSO,TSWA,TZA,TZU,TZI,TZAA,TZEE,TZE,TZO,TZOA,FA,FU,FI,FAA,FEE,FE,FO,FWA,PA",
      "PU,PI,PAA,PEE,PE,PO,PWA,RYA,MYA,FYA"]⟩,
    ⟨0x135d, 0x1371, ["ETHIOPIC:COMBINING GEMINATION AND VOWEL LENGTH MARK",
      "COMBINING VOWEL LENGTH MARK,COMBINING GEMINATION MARK,SECTION MARK,WORDSPACE,FULL STOP",
      "COMMA,SEMICOLON,COLON,PREFACE COLON,QUESTION MARK,PARAGRAPH SEPARATOR,DIGIT ONE,DIGIT TWO",
      "DIGIT THREE,DIGIT FOUR,DIGIT FIVE,DIGIT SIX,DIGIT SEVEN,DIGIT EIGHT,DIGIT NINE"]⟩,
    ⟨0x1372, 0x137c, ["ETHIOPIC NUMBER:TEN,TWENTY,THIRTY,FORTY,FIFTY,SIXTY,SEVENTY,EIGHTY,NINETY",
      "HUNDRED,TEN THOUSAND"]⟩,
    ⟨0x1380, 0x138f, ["ETHIOPIC SYLLABLE:SEBATBEIT MWA,MWI,MWEE,MWE,SEBATBEIT BWA,BWI,BWEE,BWE",
      "SEBATBEIT FWA,FWI,FWEE,FWE,SEBATBEIT PWA,PWI,PWEE,PWE"]⟩,
    ⟨0x1390, 0x1399, ["ETHIOPIC TONAL MARK:YIZET,DERET,RIKRIK,SHORT RIKRIK,DIFAT,KENAT,CHIRET",
      "HIDET,DERET-HIDET,KURT"]⟩,
    ⟨0x13a0, 0x13f5, ["CHEROKEE LETTER:A,E,I,O,U,V,GA,KA,GE,GI,GO,GU,GV,HA,HE,HI,HO,HU,HV,LA,LE,LI",
      "LO,LU,LV,MA,ME,MI,MO,MU,NA,HNA,NAH,NE,NI,NO,NU,NV,QUA,QUE,QUI,QUO,QUU,QUV,SA,S,SE,SI,SO,SU",
      "SV,DA,TA,DE,TE,DI,TI,DO,DU,DV,DLA,TLA,TLE,TLI,TLO,TLU,TLV,TSA,TSE,TSI,TSO,TSU,TSV,WA,WE,WI",
      "WO,WU,WV,YA,YE,YI,YO,YU,YV,MV"]⟩,
    ⟨0x13f8, 0x13fd, ["CHEROKEE SMALL LETTER:YE,YI,YO,YU,YV,MV"]⟩,
    ⟨0x1400, 0x15af, ["CANADIAN SYLLABICS:HYPHEN,E,AAI,I,II,O,OO,Y-CREE OO,CARRIER EE,CARRIER I,A",
      "AA,WE,WEST-CREE WE,WI,WEST-CREE WI,WII,WEST-CREE WII,WO,WEST-CREE WO,WOO,WEST-CREE WOO",
      "NASKAPI WOO,WA,WEST-CREE WA,WAA,WEST-CREE WAA,NASKAPI WAA,AI,Y-CREE W,GLOTTAL STOP",
      "FINAL ACUTE,FINAL GRAVE,FINAL BOTTOM HALF RING,FINAL TOP HALF RING,FINAL RIGHT HALF RING",
      "FINAL RING,FINAL DOUBLE ACUTE,FINAL DOUBLE SHORT VERTICAL STROKES,FINAL MIDDLE DOT",
      "FINAL SHORT HORIZONTAL STROKE,FINAL PLUS,FINAL DOWN TACK,EN,IN,ON,AN,PE,PAAI,PI,PII,PO,POO",
      "Y-CREE POO,CARRIER HEE,CARRIER HI,PA,PAA,PWE,WEST-CREE PWE,PWI,WEST-CREE PWI,PWII",
      "WEST-CREE PWII,PWO,WEST-CREE PWO,PWOO,WEST-CREE PWOO,PWA,WEST-CREE PWA,PWAA,WEST-CREE PWAA",
      "Y-CREE PWAA,P,WEST-CREE P,CARRIER H,TE,TAAI,TI,TII,TO,TOO,Y-CREE TOO,CARRIER DEE,CARRIER DI",
      "TA,TAA,TWE,WEST-CREE TWE,TWI,WEST-CREE TWI,TWII,WEST-CREE TWII,TWO,WEST-CREE TWO,TWOO",
      "WEST-CREE TWOO,TWA,WEST-CREE TWA,TWAA,WEST-CREE TWAA,NASKAPI TWAA,T,TTE,TTI,TTO,TTA,KE,KAAI",
      "KI,KII,KO,KOO,Y-CREE KOO,KA,KAA,KWE,WEST-CREE KWE,KWI,WEST-CREE KWI,KWII,WEST-CREE KWII,KWO",
      "WEST-CREE KWO,KWOO,WEST-CREE KWOO,KWA,WEST-CREE KWA,KWAA,WEST-CREE KWAA,NASKAPI KWAA,K,KW",
      "SOUTH-SLAVEY KEH,SOUTH-SLAVEY KIH,SOUTH-SLAVEY KOH,SOUTH-SLAVEY KAH,CE,CAAI,CI,CII,CO,COO",
      "Y-CREE COO,CA,CAA,CWE,WEST-CREE CWE,CWI,WEST-CREE CWI,CWII,WEST-CREE CWII,CWO,WEST-CREE CWO",
      "CWOO,WEST-CREE CWOO,CWA,WEST-CREE CWA,CWAA,WEST-CREE CWAA,NASKAPI CWAA,C,SAYISI TH,ME,MAAI",
      "MI,MII,MO,MOO,Y-CREE MOO,MA,MAA,MWE,WEST-CREE MWE,MWI,WEST-CREE MWI,MWII,WEST-CREE MWII,MWO",
      "WEST-CREE MWO,MWOO,WEST-CREE MWOO,MWA,WEST-CREE MWA,MWAA,WEST-CREE MWAA,NASKAPI MWAA,M",
      "WEST-CREE M,MH,ATHAPASCAN M,SAYISI M,NE,NAAI,NI,NII,NO,NOO,Y-CREE NOO,NA,NAA,NWE",
      "WEST-CREE NWE,NWA,WEST-CREE NWA,NWAA,WEST-CREE NWAA,NASKAPI NWAA,N,CARRIER NG,NH,LE,LAAI,LI",
      "LII,LO,LOO,Y-CREE LOO,LA,LAA,LWE,WEST-CREE LWE,LWI,WEST-CREE LWI,LWII,WEST-CREE LWII,LWO",
      "WEST-CREE LWO,LWOO,WEST-CREE LWOO,LWA,WEST-CREE LWA,LWAA,WEST-CREE LWAA,L,WEST-CREE L",
      "MEDIAL L,SE,SAAI,SI,SII,SO,SOO,Y-CREE SOO,SA,SAA,SWE,WEST-CREE SWE,SWI,WEST-CREE SWI,SWII",
      "WEST-CREE SWII,SWO,WEST-CREE SWO,SWOO,WEST-CREE SWOO,SWA,WEST-CREE SWA,SWAA,WEST-CREE SWAA",
      "NASKAPI SWAA,S,ATHAPASCAN S,SW,BLACKFOOT S,MOOSE-CREE SK,NASKAPI SKW,NASKAPI S-W",
      "NASKAPI SPWA,NASKAPI STWA,NASKAPI SKWA,NASKAPI SCWA,SHE,SHI,SHII,SHO,SHOO,SHA,SHAA,SHWE",
      "WEST-CREE SHWE,SHWI,WEST-CREE SHWI,SHWII,WEST-CREE SHWII,SHWO,WEST-CREE SHWO,SHWOO",
      "WEST-CREE SHWOO,SHWA,WEST-CREE SHWA,SHWAA,WEST-CREE SHWAA,SH,YE,YAAI,YI,YII,YO,YOO",
      "Y-CREE YOO,YA,YAA,YWE,WEST-CREE YWE,YWI,WEST-CREE YWI,YWII,WEST-CREE YWII,YWO,WEST-CREE YWO",
      "YWOO,WEST-CREE YWOO,YWA,WEST-CREE YWA,YWAA,WEST-CREE YWAA,NASKAPI YWAA,Y,BIBLE-CREE Y",
      "WEST-CREE Y,SAYISI YI,RE,R-CREE RE,WEST-CREE LE,RAAI,RI,RII,RO,ROO,WEST-CREE LO,RA,RAA",
      "WEST-CREE LA,RWAA,WEST-CREE RWAA,R,WEST-CREE R,MEDIAL R,FE,FAAI,FI,FII,FO,FOO,FA,FAA,FWAA",
      "WEST-CREE FWAA,F,THE,N-CREE THE,THI,N-CREE THI,THII,N-CREE THII,THO,THOO,THA,THAA,THWAA",
      "WEST-CREE THWAA,TH,TTHE,TTHI,TTHO,TTHA,TTH,TYE,TYI,TYO,TYA,NUNAVIK HE,NUNAVIK HI",
      "NUNAVIK HII,NUNAVIK HO,NUNAVIK HOO,NUNAVIK HA,NUNAVIK HAA,NUNAVIK H,NUNAVUT H,HK,QAAI,QI",
      "QII,QO,QOO,QA,QAA,Q,TLHE,TLHI,TLHO,TLHA,WEST-CREE RE,WEST-CREE RI,WEST-CREE RO,WEST-CREE RA",
      "NGAAI,NGI,NGII,NGO,NGOO,NGA,NGAA,NG,NNG,SAYISI SHE,SAYISI SHI,SAYISI SHO,SAYISI SHA",
      "WOODS-CREE THE,WOODS-CREE THI,WOODS-CREE THO,WOODS-CREE THA,WOODS-CREE TH,LHI,LHII,LHO,LHOO",
      "LHA,LHAA,LH,TH-CREE THE,TH-CREE THI,TH-CREE THII,TH-CREE THO,TH-CREE THOO,TH-CREE THA",
      "TH-CREE THAA,TH-CREE TH,AIVILIK B"]⟩,
    ⟨0x15b0, 0x15bf, ["CANADIAN SYLLABICS BLACKFOOT:E,I,O,A,WE,WI,WO,WA,NE,NI,NO,NA,KE,KI,KO,KA"]⟩,
    ⟨0x15c0, 0x15c3, ["CANADIAN SYLLABICS SAYISI:HE,HI,HO,HA"]⟩,
    ⟨0x15c4, 0x1614, ["CANADIAN SYLLABICS CARRIER:GHU,GHO,GHE,GHEE,GHI,GHA,RU,RO,RE,REE,RI,RA,WU",
      "WO,WE,WEE,WI,WA,HWU,HWO,HWE,HWEE,HWI,HWA,THU,THO,THE,THEE,THI,THA,TTU,TTO,TTE,TTEE,TTI,TTA",
      "PU,PO,PE,PEE,PI,PA,P,GU,GO,GE,GEE,GI,GA,KHU,KHO,KHE,KHEE,KHI,KHA,KKU,KKO,KKE,KKEE,KKI,KKA",
      "KK,NU,NO,NE,NEE,NI,NA,MU,MO,ME,MEE,MI,MA,YU,YO,YE,YEE,YI,YA,JU"]⟩,
    ⟨0x1615, 0x161a, ["CANADIAN SYLLABICS:SAYISI JU,CARRIER JO,CARRIER JE,CARRIER JEE,CARRIER JI",
      "SAYISI JI"]⟩,
    ⟨0x161b, 0x166c, ["CANADIAN SYLLABICS CARRIER:JA,JJU,JJO,JJE,JJEE,JJI,JJA,LU,LO,LE,LEE,LI,LA",
      "DLU,DLO,DLE,DLEE,DLI,DLA,LHU,LHO,LHE,LHEE,LHI,LHA,TLHU,TLHO,TLHE,TLHEE,TLHI,TLHA,TLU,TLO",
      "TLE,TLEE,TLI,TLA,ZU,ZO,ZE,ZEE,ZI,ZA,Z,INITIAL Z,DZU,DZO,DZE,DZEE,DZI,DZA,SU,SO,SE,SEE,SI,SA",
      "SHU,SHO,SHE,SHEE,SHI,SHA,SH,TSU,TSO,TSE,TSEE,TSI,TSA,CHU,CHO,CHE,CHEE,CHI,CHA,TTSU,TTSO",
      "TTSE,TTSEE,TTSI,TTSA"]⟩,
    ⟨0x166d, 0x167f, ["CANADIAN SYLLABICS:CHI SIGN,FULL STOP,QAI,NGAI,NNGI,NNGII,NNGO,NNGOO,NNGA",
      "NNGAA,WOODS-CREE THWEE,WOODS-CREE THWI,WOODS-CREE THWII,WOODS-CREE THWO,WOODS-CREE THWOO",
      "WOODS-CREE THWA,WOODS-CREE THWAA,WOODS-CREE FINAL TH,BLACKFOOT W"]⟩,
    ⟨0x1680, 0x1680, [":OGHAM SPACE MARK"]⟩,
    ⟨0x1681, 0x169a, ["OGHAM LETTER:BEITH,LUIS,FEARN,SAIL,NION,UATH,DAIR,TINNE,COLL,CEIRT,MUIN",
      "GORT,NGEADAL,STRAIF,RUIS,AILM,ONN,UR,EADHADH,IODHADH,EABHADH,OR,UILLEANN,IFIN,EAMHANCHOLL",
      "PEITH"]⟩,
    ⟨0x169b, 0x169c, ["OGHAM:FEATHER MARK,REVERSED FEATHER MARK"]⟩,
    ⟨0x16a0, 0x16ea, ["RUNIC LETTER:FEHU FEOH FE F,V,URUZ UR U,YR,Y,W,THURISAZ THURS THORN,ETH",
      "ANSUZ A,OS O,AC A,AESC,LONG-BRANCH-OSS O,SHORT-TWIG-OSS O,O,OE,ON,RAIDO RAD REID R,KAUNA",
      "CEN,KAUN K,G,ENG,GEBO GYFU G,GAR,WUNJO WYNN W,HAGLAZ H,HAEGL H,LONG-BRANCH-HAGALL H",
      "SHORT-TWIG-HAGALL H,NAUDIZ NYD NAUD N,SHORT-TWIG-NAUD N,DOTTED-N,ISAZ IS ISS I,E,JERAN J",
      "GER,LONG-BRANCH-AR AE,SHORT-TWIG-AR A,IWAZ EOH,PERTHO PEORTH P,ALGIZ EOLHX,SOWILO S",
      "SIGEL LONG-BRANCH-SOL S,SHORT-TWIG-SOL S,C,Z,TIWAZ TIR TYR T,SHORT-TWIG-TYR T,D",
      "BERKANAN BEORC BJARKAN B,SHORT-TWIG-BJARKAN B,DOTTED-P,OPEN-P,EHWAZ EH E,MANNAZ MAN M",
      "LONG-BRANCH-MADR M,SHORT-TWIG-MADR M,LAUKAZ LAGU LOGR L,DOTTED-L,INGWAZ,ING,DAGAZ DAEG D",
      "OTHALAN ETHEL O,EAR,IOR,CWEORTH,CALC,CEALC,STAN,LONG-BRANCH-YR,SHORT-TWIG-YR,ICELANDIC-YR,Q",
      "X"]⟩,
    ⟨0x16eb, 0x16f3, ["RUNIC:SINGLE PUNCTUATION,MULTIPLE PUNCTUATION,CROSS PUNCTUATION",
      "ARLAUG SYMBOL,TVIMADUR SYMBOL,BELGTHOR SYMBOL,LETTER K,LETTER SH,LETTER OO"]⟩,
    ⟨0x16f4, 0x16f8, ["RUNIC LETTER FRANKS CASKET:OS,IS,EH,AC,AESC"]⟩,
    ⟨0x1700, 0x1711, ["TAGALOG LETTER:A,I,U,KA,GA,NGA,TA,DA,NA,PA,BA,MA,YA,RA,LA,WA,SA,HA"]⟩,
    ⟨0x1712, 0x1715, ["TAGALOG:VOWEL SIGN I,VOWEL SIGN U,SIGN VIRAMA,SIGN PAMUDPOD"]⟩,
    ⟨0x171f, 0x171f, [":TAGALOG LETTER ARCHAIC RA"]⟩,
    ⟨0x1720, 0x1731, ["HANUNOO LETTER:A,I,U,KA,GA,NGA,TA,DA,NA,PA,BA,MA,YA,RA,LA,WA,SA,HA"]⟩,
    ⟨0x1732, 0x1736, [":HANUNOO VOWEL SIGN I,HANUNOO VOWEL SIGN U,HANUNOO SIGN PAMUDPOD",
      "PHILIPPINE SINGLE PUNCTUATION,PHILIPPINE DOUBLE PUNCTUATION"]⟩,
    ⟨0x1740, 0x1751, ["BUHID LETTER:A,I,U,KA,GA,NGA,TA,DA,NA,PA,BA,MA,YA,RA,LA,WA,SA,HA"]⟩,
    ⟨0x1752, 0x1753, ["BUHID VOWEL SIGN:I,U"]⟩,
    ⟨0x1760, 0x176c, ["TAGBANWA LETTER:A,I,U,KA,GA,NGA,TA,DA,NA,PA,BA,MA,YA"]⟩,
    ⟨0x176e, 0x1770, ["TAGBANWA LETTER:LA,WA,SA"]⟩,
    ⟨0x1772, 0x1773, ["TAGBANWA VOWEL SIGN:I,U"]⟩,
    ⟨0x1780, 0x17a2, ["KHMER LETTER:KA,KHA,KO,KHO,NGO,CA,CHA,CO,CHO,NYO,DA,TTHA,DO,TTHO,NNO,TA,THA",
      "TO,THO,NO,BA,PHA,PO,PHO,MO,YO,RO,LO,VO,SHA,SSO,SA,HA,LA,QA"]⟩,
    ⟨0x17a3, 0x17b3, ["KHMER INDEPENDENT VOWEL:QAQ,QAA,QI,QII,QU,QUK,QUU,QUUV,RY,RYY,LY,LYY,QE,QAI",
      "QOO TYPE ONE,QOO TYPE TWO,QAU"]⟩,
    ⟨0x17b4, 0x17b5, ["KHMER VOWEL INHERENT:AQ,AA"]⟩,
    ⟨0x17b6, 0x17c5, ["KHMER VOWEL SIGN:AA,I,II,Y,YY,U,UU,UA,OE,YA,IE,E,AE,AI,OO,AU"]⟩,
    ⟨0x17c6, 0x17da, ["KHMER SIGN:NIKAHIT,REAHMUK,YUUKALEAPINTU,MUUSIKATOAN,TRIISAP,BANTOC,ROBAT",
      "TOANDAKHIAT,KAKABAT,AHSDA,SAMYOK SANNYA,VIRIAM,COENG,BATHAMASAT,KHAN,BARIYOOSAN",
      "CAMNUC PII KUUH,LEK TOO,BEYYAL,PHNAEK MUAN,KOOMUUT"]⟩,
    ⟨0x17db, 0x17dd, ["KHMER:CURRENCY SYMBOL RIEL,SIGN AVAKRAHASANYA,SIGN ATTHACAN"]⟩,
    ⟨0x17e0, 0x17e9, ["KHMER DIGIT:ZERO,ONE,TWO,THREE,FOUR,FIVE,SIX,SEVEN,EIGHT,NINE"]⟩,
    ⟨0x17f0, 0x17f9, ["KHMER SYMBOL LEK ATTAK:SON,MUOY,PII,BEI,BUON,PRAM,PRAM-MUOY,PRAM-PII",
      "PRAM-BEI,PRAM-BUON"]⟩,
    ⟨0x1800, 0x1819, ["MONGOLIAN:BIRGA,ELLIPSIS,COMMA,FULL STOP,COLON,FOUR DOTS,TODO SOFT HYPHEN",
      "SIBE SYLLABLE BOUNDARY MARKER,MANCHU COMMA,MANCHU FULL STOP,NIRUGU",
      "FREE VARIATION SELECTOR ONE,FREE VARIATION SELECTOR TWO,FREE VARIATION SELECTOR THREE",
      "VOWEL SEPARATOR,FREE VARIATION SELECTOR FOUR,DIGIT ZERO,DIGIT ONE,DIGIT TWO,DIGIT THREE",
      "DIGIT FOUR,DIGIT FIVE,DIGIT SIX,DIGIT SEVEN,DIGIT EIGHT,DIGIT NINE"]⟩,
    ⟨0x1820, 0x1878, ["MONGOLIAN LETTER:A,E,I,O,U,OE,UE,EE,NA,ANG,BA,PA,QA,GA,MA,LA,SA,SHA,TA,DA",
      "CHA,JA,YA,RA,WA,FA,KA,KHA,TSA,ZA,HAA,ZRA,LHA,ZHI,CHI,TODO LONG VOWEL SIGN,TODO E,TODO I",
      "TODO O,TODO U,TODO OE,TODO UE,TODO ANG,TODO BA,TODO PA,TODO QA,TODO GA,TODO MA,TODO TA",
      "TODO DA,TODO CHA,TODO JA,TODO TSA,TODO YA,TODO WA,TODO KA,TODO GAA,TODO HAA,TODO JIA",
      "TODO NIA,TODO DZA,SIBE E,SIBE I,SIBE IY,SIBE UE,SIBE U,SIBE ANG,SIBE KA,SIBE GA,SIBE HA",
      "SIBE PA,SIBE SHA,SIBE TA,SIBE DA,SIBE JA,SIBE FA,SIBE GAA,SIBE HAA,SIBE TSA,SIBE ZA",
      "SIBE RAA,SIBE CHA,SIBE ZHA,MANCHU I,MANCHU KA,MANCHU RA,MANCHU FA,MANCHU ZHA",
      "CHA WITH TWO DOTS"]⟩,
    ⟨0x1880, 0x1897, ["MONGOLIAN LETTER ALI GALI:ANUSVARA ONE,VISARGA ONE,DAMARU,UBADAMA",
      "INVERTED UBADAMA,BALUDA,THREE BALUDA,A,I,KA,NGA,CA,TTA,TTHA,DDA,NNA,TA,DA,PA,PHA,SSA,ZHA,ZA",
      "AH"]⟩,
    ⟨0x1898, 0x1899, ["MONGOLIAN LETTER TODO ALI GALI:TA,ZHA"]⟩,
    ⟨0x189a, 0x18a5, ["MONGOLIAN LETTER MANCHU ALI GALI:GHA,NGA,CA,JHA,TTA,DDHA,TA,DHA,SSA,CYA,ZHA",
      "ZA"]⟩,
    ⟨0x18a6, 0x18aa, ["MONGOLIAN LETTER:ALI GALI HALF U,ALI GALI HALF YA,MANCHU ALI GALI BHA",
      "ALI GALI DAGALGA,MANCHU ALI GALI LHA"]⟩,
    ⟨0x18b0, 0x18f5, ["CANADIAN SYLLABICS:OY,AY,AAY,WAY,POY,PAY,PWOY,TAY,KAY,KWAY,MAY,NOY,NAY,LAY",
      "SOY,SAY,SHOY,SHAY,SHWOY,YOY,YAY,RAY,NWI,OJIBWAY NWI,NWII,OJIBWAY NWII,NWO,OJIBWAY NWO,NWOO",
      "OJIBWAY NWOO,RWEE,RWI,RWII,RWO,RWOO,RWA,OJIBWAY P,OJIBWAY T,OJIBWAY K,OJIBWAY C,OJIBWAY M",
      "OJIBWAY N,OJIBWAY S,OJIBWAY SH,EASTERN W,WESTERN W,FINAL SMALL RING,FINAL RAISED DOT",
      "R-CREE RWE,WEST-CREE LOO,WEST-CREE LAA,THWE,THWA,TTHWE,TTHOO,TTHAA,TLHWE,TLHOO,SAYISI SHWE",
      "SAYISI SHOO,SAYISI HOO,CARRIER GWU,CARRIER DENE GEE,CARRIER GAA,CARRIER GWA,SAYISI JUU",
      "CARRIER JWA,BEAVER DENE L,BEAVER DENE R,CARRIER DENTAL S"]⟩,
    ⟨0x1900, 0x1900, [":LIMBU VOWEL-CARRIER LETTER"]⟩,
    ⟨0x1901, 0x191e, ["LIMBU LETTER:KA,KHA,GA,GHA,NGA,CA,CHA,JA,JHA,YAN,TA,THA,DA,DHA,NA,PA,PHA,BA",
      "BHA,MA,YA,RA,LA,WA,SHA,SSA,SA,HA,GYAN,TRA"]⟩,
    ⟨0x1920, 0x1928, ["LIMBU VOWEL SIGN:A,I,U,EE,AI,OO,AU,E,O"]⟩,
    ⟨0x1929, 0x192b, ["LIMBU SUBJOINED LETTER:YA,RA,WA"]⟩,
    ⟨0x1930, 0x1938, ["LIMBU SMALL LETTER:KA,NGA,ANUSVARA,TA,NA,PA,MA,RA,LA"]⟩,
    ⟨0x1939, 0x193b, ["LIMBU SIGN:MUKPHRENG,KEMPHRENG,SA-I"]⟩,
    ⟨0x1940, 0x1940, [":LIMBU SIGN LOO"]⟩,
    ⟨0x1944, 0x194f, ["LIMBU:EXCLAMATION MARK,QUESTION MARK,DIGIT ZERO,DIGIT ONE,DIGIT TWO",
      "DIGIT THREE,DIGIT FOUR,DIGIT FIVE,DIGIT SIX,DIGIT SEVEN,DIGIT EIGHT,DIGIT NINE"]⟩,
    ⟨0x1950, 0x196d, ["TAI LE LETTER:KA,XA,NGA,TSA,SA,YA,TA,THA,LA,PA,PHA,MA,FA,VA,HA,QA,KHA,TSHA",
      "NA,A,I,EE,EH,U,OO,O,UE,E,AUE,AI"]⟩,
    ⟨0x1970, 0x1974, ["TAI LE LETTER:TONE-2,TONE-3,TONE-4,TONE-5,TONE-6"]⟩,
    ⟨0x1980, 0x19ab, ["NEW TAI LUE LETTER:HIGH QA,LOW QA,HIGH KA,HIGH XA,HIGH NGA,LOW KA,LOW XA",
      "LOW NGA,HIGH TSA,HIGH SA,HIGH YA,LOW TSA,LOW SA,LOW YA,HIGH TA,HIGH THA,HIGH NA,LOW TA",
      "LOW THA,LOW NA,HIGH PA,HIGH PHA,HIGH MA,LOW PA,LOW PHA,LOW MA,HIGH FA,HIGH VA,HIGH LA",
      "LOW FA,LOW VA,LOW LA,HIGH HA,HIGH DA,HIGH BA,LOW HA,LOW DA,LOW BA,HIGH KVA,HIGH XVA,LOW KVA",
      "LOW XVA,HIGH SUA,LOW SUA"]⟩,
    ⟨0x19b0, 0x19c0, ["NEW TAI LUE VOWEL SIGN:VOWEL SHORTENER,AA,II,U,UU,E,AE,O,OA,UE,AY,AAY,UY,OY",
      "OAY,UEY,IY"]⟩,
    ⟨0x19c1, 0x19c7, ["NEW TAI LUE LETTER FINAL:V,NG,N,M,K,D,B"]⟩,
    ⟨0x19c8, 0x19c9, ["NEW TAI LUE TONE:MARK-1,MARK-2"]⟩,
    ⟨0x19d0, 0x19da, ["NEW TAI LUE:DIGIT ZERO,DIGIT ONE,DIGIT TWO,DIGIT THREE,DIGIT FOUR",
      "DIGIT FIVE,DIGIT SIX,DIGIT SEVEN,DIGIT EIGHT,DIGIT NINE,THAM DIGIT ONE"]⟩,
    ⟨0x19de, 0x19df, ["NEW TAI LUE SIGN:LAE,LAEV"]⟩,
    ⟨0x19e0, 0x19ff, ["KHMER SYMBOL:PATHAMASAT,MUOY KOET,PII KOET,BEI KOET,BUON KOET,PRAM KOET",
      "PRAM-MUOY KOET,PRAM-PII KOET,PRAM-BEI KOET,PRAM-BUON KOET,DAP KOET,DAP-MUOY KOET",
      "DAP-PII KOET,DAP-BEI KOET,DAP-BUON KOET,DAP-PRAM KOET,TUTEYASAT,MUOY ROC,PII ROC,BEI ROC",
      "BUON ROC,PRAM ROC,PRAM-MUOY ROC,PRAM-PII ROC,PRAM-BEI ROC,PRAM-BUON ROC,DAP ROC",
      "DAP-MUOY ROC,DAP-PII ROC,DAP-BEI ROC,DAP-BUON ROC,DAP-PRAM ROC"]⟩,
    ⟨0x1a00, 0x1a16, ["BUGINESE LETTER:KA,GA,NGA,NGKA,PA,BA,MA,MPA,TA,DA,NA,NRA,CA,JA,NYA,NYCA,YA",
      "RA,LA,VA,SA,A,HA"]⟩,
    ⟨0x1a17, 0x1a1b, ["BUGINESE VOWEL SIGN:I,U,E,O,AE"]⟩,
    ⟨0x1a1e, 0x1a1f, ["BUGINESE:PALLAWA,END OF SECTION"]⟩,
    ⟨0x1a20, 0x1a54, ["TAI THAM LETTER:HIGH KA,HIGH KHA,HIGH KXA,LOW KA,LOW KXA,LOW KHA,NGA",
      "HIGH CA,HIGH CHA,LOW CA,LOW SA,LOW CHA,NYA,RATA,HIGH RATHA,DA,LOW RATHA,RANA,HIGH TA",
      "HIGH THA,LOW TA,LOW THA,NA,BA,HIGH PA,HIGH PHA,HIGH FA,LOW PA,LOW FA,LOW PHA,MA,LOW YA",
      "HIGH YA,RA,RUE,LA,LUE,WA,HIGH SHA,HIGH SSA,HIGH SA,HIGH HA,LLA,A,LOW HA,I,II,U,UU,EE,OO,LAE",
      "GREAT SA"]⟩,
    ⟨0x1a55, 0x1a58, ["TAI THAM:CONSONANT SIGN MEDIAL RA,CONSONANT SIGN MEDIAL LA",
      "CONSONANT SIGN LA TANG LAI,SIGN MAI KANG LAI"]⟩,
    ⟨0x1a59, 0x1a5e, ["TAI THAM CONSONANT SIGN:FINAL NGA,LOW PA,HIGH RATHA OR LOW PA,MA,BA,SA"]⟩,
    ⟨0x1a60, 0x1a60, [":TAI THAM SIGN SAKOT"]⟩,
    ⟨0x1a61, 0x1a73, ["TAI THAM VOWEL SIGN:A,MAI SAT,AA,TALL AA,I,II,UE,UUE,U,UU,O,OA BELOW,OY,E",
      "AE,OO,AI,THAM AI,OA ABOVE"]⟩,
    ⟨0x1a74, 0x1a7c, ["TAI THAM SIGN:MAI KANG,TONE-1,TONE-2,KHUEN TONE-3,KHUEN TONE-4,KHUEN TONE-5",
      "RA HAAM,MAI SAM,KHUEN-LUE KARAN"]⟩,
    ⟨0x1a7f, 0x1a7f, [":TAI THAM COMBINING CRYPTOGRAMMIC DOT"]⟩,
    ⟨0x1a80, 0x1a89, ["TAI THAM HORA DIGIT:ZERO,ONE,TWO,THREE,FOUR,FIVE,SIX,SEVEN,EIGHT,NINE"]⟩,
    ⟨0x1a90, 0x1a99, ["TAI THAM THAM DIGIT:ZERO,ONE,TWO,THREE,FOUR,FIVE,SIX,SEVEN,EIGHT,NINE"]⟩,
    ⟨0x1aa0, 0x1aad, ["TAI THAM SIGN:WIANG,WIANGWAAK,SAWAN,KEOW,HOY,DOKMAI,REVERSED ROTATED RANA",
      "MAI YAMOK,KAAN,KAANKUU,SATKAAN,SATKAANKUU,HANG,CAANG"]⟩,
    ⟨0x1ab0, 0x1ace, ["COMBINING:DOUBLED CIRCUMFLEX ACCENT,DIAERESIS-RING,INFINITY,DOWNWARDS ARROW",
      "TRIPLE DOT,X-X BELOW,WIGGLY LINE BELOW,OPEN MARK BELOW,DOUBLE OPEN MARK BELOW",
      "LIGHT CENTRALIZATION STROKE BELOW,STRONG CENTRALIZATION STROKE BELOW,PARENTHESES ABOVE",
      "DOUBLE PARENTHESES ABOVE,PARENTHESES BELOW,PARENTHESES OVERLAY,LATIN SMALL LETTER W BELOW",
      "LATIN SMALL LETTER TURNED W BELOW,LEFT PARENTHESIS ABOVE LEFT,RIGHT PARENTHESIS ABOVE RIGHT",
      "LEFT PARENTHESIS BELOW LEFT,RIGHT PARENTHESIS BELOW RIGHT,SQUARE BRACKETS ABOVE",
      "NUMBER SIGN ABOVE,INVERTED DOUBLE ARCH ABOVE,PLUS SIGN ABOVE,DOUBLE PLUS SIGN ABOVE",
      "DOUBLE PLUS SIGN BELOW,TRIPLE ACUTE ACCENT,LATIN SMALL LETTER INSULAR G",
      "LATIN SMALL LETTER INSULAR R,LATIN SMALL LETTER INSULAR T"]⟩,
    ⟨0x1b00, 0x1b04, ["BALINESE SIGN:ULU RICEM,ULU CANDRA,CECEK,SURANG,BISAH"]⟩,
    ⟨0x1b05, 0x1b33, ["BALINESE LETTER:AKARA,AKARA TEDUNG,IKARA,IKARA TEDUNG,UKARA,UKARA TEDUNG",
      "RA REPA,RA REPA TEDUNG,LA LENGA,LA LENGA TEDUNG,EKARA,AIKARA,OKARA,OKARA TEDUNG,KA",
      "KA MAHAPRANA,GA,GA GORA,NGA,CA,CA LACA,JA,JA JERA,NYA,TA LATIK,TA MURDA MAHAPRANA",
      "DA MURDA ALPAPRANA,DA MURDA MAHAPRANA,NA RAMBAT,TA,TA TAWA,DA,DA MADU,NA,PA,PA KAPAL,BA",
      "BA KEMBANG,MA,YA,RA,LA,WA,SA SAGA,SA SAPA,SA,HA"]⟩,
    ⟨0x1b34, 0x1b34, [":BALINESE SIGN REREKAN"]⟩,
    ⟨0x1b35, 0x1b43, ["BALINESE VOWEL SIGN:TEDUNG,ULU,ULU SARI,SUKU,SUKU ILUT,RA REPA",
      "RA REPA TEDUNG,LA LENGA,LA LENGA TEDUNG,TALING,TALING REPA,TALING TEDUNG,TALING REPA TEDUNG",
      "PEPET,PEPET TEDUNG"]⟩,
    ⟨0x1b44, 0x1b4c, ["BALINESE:ADEG ADEG,LETTER KAF SASAK,LETTER KHOT SASAK,LETTER TZIR SASAK",
      "LETTER EF SASAK,LETTER VE SASAK,LETTER ZAL SASAK,LETTER ASYURA SASAK,LETTER ARCHAIC JNYA"]⟩,
    ⟨0x1b50, 0x1b60, ["BALINESE:DIGIT ZERO,DIGIT ONE,DIGIT TWO,DIGIT THREE,DIGIT FOUR,DIGIT FIVE",
      "DIGIT SIX,DIGIT SEVEN,DIGIT EIGHT,DIGIT NINE,PANTI,PAMADA,WINDU,CARIK PAMUNGKAH,CARIK SIKI",
      "CARIK PAREREN,PAMENENG"]⟩,
    ⟨0x1b61, 0x1b7c, ["BALINESE MUSICAL SYMBOL:DONG,DENG,DUNG,DANG,DANG SURANG,DING,DAENG,DEUNG",
      "DAING,DANG GEDE,COMBINING TEGEH,COMBINING ENDEP,COMBINING KEMPUL,COMBINING KEMPLI",
      "COMBINING JEGOGAN,COMBINING KEMPUL WITH JEGOGAN,COMBINING KEMPLI WITH JEGOGAN",
      "COMBINING BENDE,COMBINING GONG,RIGHT-HAND OPEN DUG,RIGHT-HAND OPEN DAG",
      "RIGHT-HAND CLOSED TUK,RIGHT-HAND CLOSED TAK,LEFT-HAND OPEN PANG,LEFT-HAND OPEN PUNG",
      "LEFT-HAND CLOSED PLAK,LEFT-HAND CLOSED PLUK,LEFT-HAND OPEN PING"]⟩,
    ⟨0x1b7d, 0x1b7e, ["BALINESE:PANTI LANTANG,PAMADA LANTANG"]⟩,
    ⟨0x1b80, 0x1b82, ["SUNDANESE SIGN:PANYECEK,PANGLAYAR,PANGWISAD"]⟩,
    ⟨0x1b83, 0x1ba0, ["SUNDANESE LETTER:A,I,U,AE,O,E,EU,KA,QA,GA,NGA,CA,JA,ZA,NYA,TA,DA,NA,PA,FA",
      "VA,BA,MA,YA,RA,LA,WA,SA,XA,HA"]⟩,
    ⟨0x1ba1, 0x1bbf, ["SUNDANESE:CONSONANT SIGN PAMINGKAL,CONSONANT SIGN PANYAKRA",
      "CONSONANT SIGN PANYIKU,VOWEL SIGN PANGHULU,VOWEL SIGN PANYUKU,VOWEL SIGN PANAELAENG",
      "VOWEL SIGN PANOLONG,VOWEL SIGN PAMEPET,VOWEL SIGN PANEULEUNG,SIGN PAMAAEH,SIGN VIRAMA",
      "CONSONANT SIGN PASANGAN MA,CONSONANT SIGN PASANGAN WA,LETTER KHA,LETTER SYA,DIGIT ZERO",
      "DIGIT ONE,DIGIT TWO,DIGIT THREE,DIGIT FOUR,DIGIT FIVE,DIGIT SIX,DIGIT SEVEN,DIGIT EIGHT",
      "DIGIT NINE,AVAGRAHA,LETTER REU,LETTER LEU,LETTER BHA,LETTER FINAL K,LETTER FINAL M"]⟩,
    ⟨0x1bc0, 0x1be5, ["BATAK LETTER:A,SIMALUNGUN A,HA,SIMALUNGUN HA,MANDAILING HA,BA,KARO BA,PA",
      "SIMALUNGUN PA,NA,MANDAILING NA,WA,SIMALUNGUN WA,PAKPAK WA,GA,SIMALUNGUN GA,JA,DA,RA",
      "SIMALUNGUN RA,MA,SIMALUNGUN MA,SOUTHERN TA,NORTHERN TA,SA,SIMALUNGUN SA,MANDAILING SA,YA",
      "SIMALUNGUN YA,NGA,LA,SIMALUNGUN LA,NYA,CA,NDA,MBA,I,U"]⟩,
    ⟨0x1be6, 0x1bf3, ["BATAK:SIGN TOMPI,VOWEL SIGN E,VOWEL SIGN PAKPAK E,VOWEL SIGN EE",
      "VOWEL SIGN I,VOWEL SIGN KARO I,VOWEL SIGN O,VOWEL SIGN KARO O,VOWEL SIGN U",
      "VOWEL SIGN U FOR SIMALUNGUN SA,CONSONANT SIGN NG,CONSONANT SIGN H,PANGOLAT,PANONGONAN"]⟩,
    ⟨0x1bfc, 0x1bff, ["BATAK SYMBOL BINDU:NA METEK,PINARBORAS,JUDUL,PANGOLAT"]⟩,
    ⟨0x1c00, 0x1c23, ["LEPCHA LETTER:KA,KLA,KHA,GA,GLA,NGA,CA,CHA,JA,NYA,TA,THA,DA,NA,PA,PLA,PHA",
      "FA,FLA,BA,BLA,MA,MLA,TSA,TSHA,DZA,YA,RA,LA,HA,HLA,VA,SA,SHA,WA,A"]⟩,
    ⟨0x1c24, 0x1c25, ["LEPCHA SUBJOINED LETTER:YA,RA"]⟩,
    ⟨0x1c26, 0x1c2c, ["LEPCHA VOWEL SIGN:AA,I,O,OO,U,UU,E"]⟩,
    ⟨0x1c2d, 0x1c35, ["LEPCHA CONSONANT SIGN:K,M,L,N,P,R,T,NYIN-DO,KANG"]⟩,
    ⟨0x1c36, 0x1c37, ["LEPCHA SIGN:RAN,NUKTA"]⟩,
    ⟨0x1c3b, 0x1c3f, ["LEPCHA PUNCTUATION:TA-ROL,NYET THYOOM TA-ROL,CER-WA,TSHOOK CER-WA,TSHOOK"]⟩,
    ⟨0x1c40, 0x1c49, ["LEPCHA DIGIT:ZERO,ONE,TWO,THREE,FOUR,FIVE,SIX,SEVEN,EIGHT,NINE"]⟩,
    ⟨0x1c4d, 0x1c4f, ["LEPCHA LETTER:TTA,TTHA,DDA"]⟩,
    ⟨0x1c50, 0x1c59, ["OL CHIKI DIGIT:ZERO,ONE,TWO,THREE,FOUR,FIVE,SIX,SEVEN,EIGHT,NINE"]⟩,
    ⟨0x1c5a, 0x1c77, ["OL CHIKI LETTER:LA,AT,AG,ANG,AL,LAA,AAK,AAJ,AAM,AAW,LI,IS,IH,INY,IR,LU,UC",
      "UD,UNN,UY,LE,EP,EDD,EN,ERR,LO,OTT,OB,OV,OH"]⟩,
    ⟨0x1c78, 0x1c7f, ["OL CHIKI:MU TTUDDAG,GAAHLAA TTUDDAAG,MU-GAAHLAA TTUDDAAG,RELAA,PHAARKAA",
      "AHAD,PUNCTUATION MUCAAD,PUNCTUATION DOUBLE MUCAAD"]⟩,
    ⟨0x1c80, 0x1c88, ["CYRILLIC SMALL LETTER:ROUNDED VE,LONG-LEGGED DE,NARROW O,WIDE ES,TALL TE",
      "THREE-LEGGED TE,TALL HARD SIGN,TALL YAT,UNBLENDED UK"]⟩,
    ⟨0x1c90, 0x1cba, ["GEORGIAN MTAVRULI CAPITAL LETTER:AN,BAN,GAN,DON,EN,VIN,ZEN,TAN,IN,KAN,LAS",
      "MAN,NAR,ON,PAR,ZHAR,RAE,SAN,TAR,UN,PHAR,KHAR,GHAN,QAR,SHIN,CHIN,CAN,JIL,CIL,CHAR,XAN,JHAN",
      "HAE,HE,HIE,WE,HAR,HOE,FI,YN,ELIFI,TURNED GAN,AIN"]⟩,
    ⟨0x1cbd, 0x1cbf, ["GEORGIAN MTAVRULI CAPITAL LETTER:AEN,HARD SIGN,LABIAL SIGN"]⟩,
    ⟨0x1cc0, 0x1cc7, ["SUNDANESE PUNCTUATION BINDU:SURYA,PANGLONG,PURNAMA,CAKRA,LEU SATANGA",
      "KA SATANGA,DA SATANGA,BA SATANGA"]⟩,
    ⟨0x1cd0, 0x1cfa, ["VEDIC:TONE KARSHANA,TONE SHARA,TONE PRENKHA,SIGN NIHSHVASA",
      "SIGN YAJURVEDIC MIDLINE SVARITA,TONE YAJURVEDIC AGGRAVATED INDEPENDENT SVARITA",
      "TONE YAJURVEDIC INDEPENDENT SVARITA,TONE YAJURVEDIC KATHAKA INDEPENDENT SVARITA",
      "TONE CANDRA BELOW,TONE YAJURVEDIC KATHAKA INDEPENDENT SVARITA SCHROEDER,TONE DOUBLE SVARITA",
      "TONE TRIPLE SVARITA,TONE KATHAKA ANUDATTA,TONE DOT BELOW,TONE TWO DOTS BELOW",
      "TONE THREE DOTS BELOW,TONE RIGVEDIC KASHMIRI INDEPENDENT SVARITA",
      "TONE ATHARVAVEDIC INDEPENDENT SVARITA,SIGN VISARGA SVARITA,SIGN VISARGA UDATTA",
      "SIGN REVERSED VISARGA UDATTA,SIGN VISARGA ANUDATTA,SIGN REVERSED VISARGA ANUDATTA",
      "SIGN VISARGA UDATTA WITH TAIL,SIGN VISARGA ANUDATTA WITH TAIL,SIGN ANUSVARA ANTARGOMUKHA",
      "SIGN ANUSVARA BAHIRGOMUKHA,SIGN ANUSVARA VAMAGOMUKHA,SIGN ANUSVARA VAMAGOMUKHA WITH TAIL",
      "SIGN TIRYAK,SIGN HEXIFORM LONG ANUSVARA,SIGN LONG ANUSVARA,SIGN RTHANG LONG ANUSVARA",
      "SIGN ANUSVARA UBHAYATO MUKHA,SIGN ARDHAVISARGA,SIGN ROTATED ARDHAVISARGA,TONE CANDRA ABOVE",
      "SIGN JIHVAMULIYA,SIGN UPADHMANIYA,SIGN ATIKRAMA,TONE RING ABOVE,TONE DOUBLE RING ABOVE",
      "SIGN DOUBLE ANUSVARA ANTARGOMUKHA"]⟩]

end CellWidth.Unicode.NameRun
