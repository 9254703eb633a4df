import CellWidth.Unicode.Name.Run

/-!
# Names: ancient

The names of characters of the ancient scripts and of those of the first supplementary plane up to
Tamil, from U+10000 to U+11FFF.
-/

namespace CellWidth.Unicode.NameRun

/-- The runs of this part of the code space, in ascending order. -/
def ancient : List NameRun :=
  [⟨0x10000, 0x1000b, ["LINEAR B SYLLABLE:B008 A,B038 E,B028 I,B061 O,B010 U,B001 DA,B045 DE",
      "B007 DI,B014 DO,B051 DU,B057 JA,B046 JE"]⟩,
    ⟨0x1000d, 0x10026, ["LINEAR B SYLLABLE:B036 JO,B065 JU,B077 KA,B044 KE,B067 KI,B070 KO,B081 KU",
      "B080 MA,B013 ME,B073 MI,B015 MO,B023 MU,B006 NA,B024 NE,B030 NI,B052 NO,B055 NU,B003 PA",
      "B072 PE,B039 PI,B011 PO,B050 PU,B016 QA,B078 QE,B021 QI,B032 QO"]⟩,
    ⟨0x10028, 0x1003a, ["LINEAR B SYLLABLE:B060 RA,B027 RE,B053 RI,B002 RO,B026 RU,B031 SA,B009 SE",
      "B041 SI,B012 SO,B058 SU,B059 TA,B004 TE,B037 TI,B005 TO,B069 TU,B054 WA,B075 WE,B040 WI",
      "B042 WO"]⟩,
    ⟨0x1003c, 0x1003d, ["LINEAR B SYLLABLE:B017 ZA,B074 ZE"]⟩,
    ⟨0x1003f, 0x1004d, ["LINEAR B SYLLABLE:B020 ZO,B025 A2,B043 A3,B085 AU,B071 DWE,B090 DWO",
      "B048 NWA,B029 PU2,B062 PTE,B076 RA2,B033 RA3,B068 RO2,B066 TA2,B087 TWE,B091 TWO"]⟩,
    ⟨0x10050, 0x1005d, ["LINEAR B SYMBOL:B018,B019,B022,B034,B047,B049,B056,B063,B064,B079,B082",
      "B083,B086,B089"]⟩,
    ⟨0x10080, 0x10092, ["LINEAR B IDEOGRAM:B100 MAN,B102 WOMAN,B104 DEER,B105 EQUID,B105F MARE",
      "B105M STALLION,B106F EWE,B106M RAM,B107F SHE-GOAT,B107M HE-GOAT,B108F SOW,B108M BOAR",
      "B109F COW,B109M BULL,B120 WHEAT,B121 BARLEY,B122 OLIVE,B123 SPICE,B125 CYPERUS"]⟩,
    ⟨0x10093, 0x100a4, ["LINEAR B:MONOGRAM B127 KAPO,MONOGRAM B128 KANAKO,IDEOGRAM B130 OIL",
      "IDEOGRAM B131 WINE,IDEOGRAM B132,MONOGRAM B133 AREPA,MONOGRAM B135 MERI",
      "IDEOGRAM B140 BRONZE,IDEOGRAM B141 GOLD,IDEOGRAM B142,IDEOGRAM B145 WOOL,IDEOGRAM B146",
      "IDEOGRAM B150,IDEOGRAM B151 HORN,IDEOGRAM B152,IDEOGRAM B153,IDEOGRAM B154",
      "MONOGRAM B156 TURO2"]⟩,
    ⟨0x100a5, 0x100d1, ["LINEAR B IDEOGRAM:B157,B158,B159 CLOTH,B160,B161,B162 GARMENT,B163 ARMOUR",
      "B164,B165,B166,B167,B168,B169,B170,B171,B172,B173 MONTH,B174,B176 TREE,B177,B178,B179,B180",
      "B181,B182,B183,B184,B185,B189,B190,B191 HELMET,B220 FOOTSTOOL,B225 BATHTUB,B230 SPEAR",
      "B231 ARROW,B232,B233 SWORD,B234,B236,B240 WHEELED CHARIOT,B241 CHARIOT,B242 CHARIOT FRAME",
      "B243 WHEEL,B245,B246"]⟩,
    ⟨0x100d2, 0x100d2, [":LINEAR B MONOGRAM B247 DIPTE"]⟩,
    ⟨0x100d3, 0x100dd, ["LINEAR B IDEOGRAM:B248,B249,B251,B252,B253,B254 DART,B255,B256,B257,B258",
      "B259"]⟩,
    ⟨0x100de, 0x100fa, ["LINEAR B IDEOGRAM VESSEL:B155,B200,B201,B202,B203,B204,B205,B206,B207",
      "B208,B209,B210,B211,B212,B213,B214,B215,B216,B217,B218,B219,B221,B222,B226,B227,B228,B229",
      "B250,B305"]⟩,
    ⟨0x10100, 0x10102, ["AEGEAN:WORD SEPARATOR LINE,WORD SEPARATOR DOT,CHECK MARK"]⟩,
    ⟨0x10107, 0x10133, ["AEGEAN NUMBER:ONE,TWO,THREE,FOUR,FIVE,SIX,SEVEN,EIGHT,NINE,TEN,TWENTY",
      "THIRTY,FORTY,FIFTY,SIXTY,SEVENTY,EIGHTY,NINETY,ONE HUNDRED,TWO HUNDRED,THREE HUNDRED",
      "FOUR HUNDRED,FIVE HUNDRED,SIX HUNDRED,SEVEN HUNDRED,EIGHT HUNDRED,NINE HUNDRED,ONE THOUSAND",
      "TWO THOUSAND,THREE THOUSAND,FOUR THOUSAND,FIVE THOUSAND,SIX THOUSAND,SEVEN THOUSAND",
      "EIGHT THOUSAND,NINE THOUSAND,TEN THOUSAND,TWENTY THOUSAND,THIRTY THOUSAND,FORTY THOUSAND",
      "FIFTY THOUSAND,SIXTY THOUSAND,SEVENTY THOUSAND,EIGHTY THOUSAND,NINETY THOUSAND"]⟩,
    ⟨0x10137, 0x1013f, ["AEGEAN:WEIGHT BASE UNIT,WEIGHT FIRST SUBUNIT,WEIGHT SECOND SUBUNIT",
      "WEIGHT THIRD SUBUNIT,WEIGHT FOURTH SUBUNIT,DRY MEASURE FIRST SUBUNIT",
      "LIQUID MEASURE FIRST SUBUNIT,MEASURE SECOND SUBUNIT,MEASURE THIRD SUBUNIT"]⟩,
    ⟨0x10140, 0x10157, ["GREEK ACROPHONIC ATTIC:ONE QUARTER,ONE HALF,ONE DRACHMA,FIVE,FIFTY",
      "FIVE HUNDRED,FIVE THOUSAND,FIFTY THOUSAND,FIVE TALENTS,TEN TALENTS,FIFTY TALENTS",
      "ONE HUNDRED TALENTS,FIVE HUNDRED TALENTS,ONE THOUSAND TALENTS,FIVE THOUSAND TALENTS",
      "FIVE STATERS,TEN STATERS,FIFTY STATERS,ONE HUNDRED STATERS,FIVE HUNDRED STATERS",
      "ONE THOUSAND STATERS,TEN THOUSAND STATERS,FIFTY THOUSAND STATERS,TEN MNAS"]⟩,
    ⟨0x10158, 0x10174, ["GREEK ACROPHONIC:HERAEUM ONE PLETHRON,THESPIAN ONE,HERMIONIAN ONE",
      "EPIDAUREAN TWO,THESPIAN TWO,CYRENAIC TWO DRACHMAS,EPIDAUREAN TWO DRACHMAS,TROEZENIAN FIVE",
      "TROEZENIAN TEN,TROEZENIAN TEN ALTERNATE FORM,HERMIONIAN TEN,MESSENIAN TEN,THESPIAN TEN",
      "THESPIAN THIRTY,TROEZENIAN FIFTY,TROEZENIAN FIFTY ALTERNATE FORM,HERMIONIAN FIFTY",
      "THESPIAN FIFTY,THESPIAN ONE HUNDRED,THESPIAN THREE HUNDRED,EPIDAUREAN FIVE HUNDRED",
      "TROEZENIAN FIVE HUNDRED,THESPIAN FIVE HUNDRED,CARYSTIAN FIVE HUNDRED,NAXIAN FIVE HUNDRED",
      "THESPIAN ONE THOUSAND,THESPIAN FIVE THOUSAND,DELPHIC FIVE MNAS,STRATIAN FIFTY MNAS"]⟩,
    ⟨0x10175, 0x1018d, ["GREEK:ONE HALF SIGN,ONE HALF SIGN ALTERNATE FORM,TWO THIRDS SIGN",
      "THREE QUARTERS SIGN,YEAR SIGN,TALENT SIGN,DRACHMA SIGN,OBOL SIGN,TWO OBOLS SIGN",
      "THREE OBOLS SIGN,FOUR OBOLS SIGN,FIVE OBOLS SIGN,METRETES SIGN,KYATHOS BASE SIGN,LITRA SIGN",
      "OUNKIA SIGN,XESTES SIGN,ARTABE SIGN,AROURA SIGN,GRAMMA SIGN,TRYBLION BASE SIGN,ZERO SIGN",
      "ONE QUARTER SIGN,SINUSOID SIGN,INDICTION SIGN"]⟩,
    ⟨0x1018e, 0x1018e, [":NOMISMA SIGN"]⟩,
    ⟨0x10190, 0x1019b, ["ROMAN:SEXTANS SIGN,UNCIA SIGN,SEMUNCIA SIGN,SEXTULA SIGN",
      "DIMIDIA SEXTULA SIGN,SILIQUA SIGN,DENARIUS SIGN,QUINARIUS SIGN,SESTERTIUS SIGN",
      "DUPONDIUS SIGN,AS SIGN,CENTURIAL SIGN"]⟩,
    ⟨0x1019c, 0x1019c, [":ASCIA SYMBOL"]⟩,
    ⟨0x101a0, 0x101a0, [":GREEK SYMBOL TAU RHO"]⟩,
    ⟨0x101d0, 0x101fd, ["PHAISTOS DISC SIGN:PEDESTRIAN,PLUMED HEAD,TATTOOED HEAD,CAPTIVE,CHILD",
      "WOMAN,HELMET,GAUNTLET,TIARA,ARROW,BOW,SHIELD,CLUB,MANACLES,MATTOCK,SAW,LID,BOOMERANG",
      "CARPENTRY PLANE,DOLIUM,COMB,SLING,COLUMN,BEEHIVE,SHIP,HORN,HIDE,BULLS LEG,CAT,RAM,EAGLE",
      "DOVE,TUNNY,BEE,PLANE TREE,VINE,PAPYRUS,ROSETTE,LILY,OX BACK,FLUTE,GRATER,STRAINER,SMALL AXE",
      "WAVY BAND,COMBINING OBLIQUE STROKE"]⟩,
    ⟨0x10280, 0x1029c, ["LYCIAN LETTER:A,E,B,BH,G,D,I,W,Z,TH,J,K,Q,L,M,N,MM,NN,U,P,KK,R,S,T,TT,AN",
      "EN,H,X"]⟩,
    ⟨0x102a0, 0x102d0, ["CARIAN LETTER:A,P2,D,L,UUU,R,LD,A2,Q,B,M,O,D2,T,SH,SH2,S,C-18,U,NN,X,N",
      "TT2,P,SS,I,E,UUUU,K,K2,ND,UU,G,G2,ST,ST2,NG,II,C-39,TT,UUU2,RR,MB,MB2,MB3,MB4,LD2,E2,UUU3"]⟩,
    ⟨0x102e0, 0x102e9, ["COPTIC EPACT:THOUSANDS MARK,DIGIT ONE,DIGIT TWO,DIGIT THREE,DIGIT FOUR",
      "DIGIT FIVE,DIGIT SIX,DIGIT SEVEN,DIGIT EIGHT,DIGIT NINE"]⟩,
    ⟨0x102ea, 0x102fb, ["COPTIC EPACT NUMBER:TEN,TWENTY,THIRTY,FORTY,FIFTY,SIXTY,SEVENTY,EIGHTY",
      "NINETY,ONE HUNDRED,TWO HUNDRED,THREE HUNDRED,FOUR HUNDRED,FIVE HUNDRED,SIX HUNDRED",
      "SEVEN HUNDRED,EIGHT HUNDRED,NINE HUNDRED"]⟩,
    ⟨0x10300, 0x1031f, ["OLD ITALIC LETTER:A,BE,KE,DE,E,VE,ZE,HE,THE,I,KA,EL,EM,EN,ESH,O,PE,SHE,KU",
      "ER,ES,TE,U,EKS,PHE,KHE,EF,ERS,CHE,II,UU,ESS"]⟩,
    ⟨0x10320, 0x10323, ["OLD ITALIC NUMERAL:ONE,FIVE,TEN,FIFTY"]⟩,
    ⟨0x1032d, 0x1032f, ["OLD ITALIC LETTER:YE,NORTHERN TSE,SOUTHERN TSE"]⟩,
    ⟨0x10330, 0x1034a, ["GOTHIC LETTER:AHSA,BAIRKAN,GIBA,DAGS,AIHVUS,QAIRTHRA,IUJA,HAGL,THIUTH,EIS",
      "KUSMA,LAGUS,MANNA,NAUTHS,JER,URUS,PAIRTHRA,NINETY,RAIDA,SAUIL,TEIWS,WINJA,FAIHU,IGGWS,HWAIR",
      "OTHAL,NINE HUNDRED"]⟩,
    ⟨0x10350, 0x10375, ["OLD PERMIC LETTER:AN,BUR,GAI,DOI,E,ZHOI,DZHOI,ZATA,DZITA,I,KOKE,LEI,MENOE",
      "NENOE,VOOI,PEEI,REI,SII,TAI,U,CHERY,SHOOI,SHCHOOI,YRY,YERU,O,OO,EF,HA,TSIU,VER,YER,YERI,YAT",
      "IE,YU,YA,IA"]⟩,
    ⟨0x10376, 0x1037a, ["COMBINING OLD PERMIC LETTER:AN,DOI,ZATA,NENOE,SII"]⟩,
    ⟨0x10380, 0x1039d, ["UGARITIC LETTER:ALPA,BETA,GAMLA,KHA,DELTA,HO,WO,ZETA,HOTA,TET,YOD,KAF",
      "SHIN,LAMDA,MEM,DHAL,NUN,ZU,SAMKA,AIN,PU,SADE,QOPA,RASHA,THANNA,GHAIN,TO,I,U,SSU"]⟩,
    ⟨0x1039f, 0x1039f, [":UGARITIC WORD DIVIDER"]⟩,
    ⟨0x103a0, 0x103c3, ["OLD PERSIAN SIGN:A,I,U,KA,KU,GA,GU,XA,CA,JA,JI,TA,TU,DA,DI,DU,THA,PA,BA",
      "FA,NA,NU,MA,MI,MU,YA,VA,VI,RA,RU,LA,SA,ZA,SHA,SSA,HA"]⟩,
    ⟨0x103c8, 0x103d5, ["OLD PERSIAN:SIGN AURAMAZDAA,SIGN AURAMAZDAA-2,SIGN AURAMAZDAAHA",
      "SIGN XSHAAYATHIYA,SIGN DAHYAAUSH,SIGN DAHYAAUSH-2,SIGN BAGA,SIGN BUUMISH,WORD DIVIDER",
      "NUMBER ONE,NUMBER TWO,NUMBER TEN,NUMBER TWENTY,NUMBER HUNDRED"]⟩,
    ⟨0x10400, 0x10427, ["DESERET CAPITAL LETTER:LONG I,LONG E,LONG A,LONG AH,LONG O,LONG OO",
      "SHORT I,SHORT E,SHORT A,SHORT AH,SHORT O,SHORT OO,AY,OW,WU,YEE,H,PEE,BEE,TEE,DEE,CHEE,JEE",
      "KAY,GAY,EF,VEE,ETH,THEE,ES,ZEE,ESH,ZHEE,ER,EL,EM,EN,ENG,OI,EW"]⟩,
    ⟨0x10428, 0x1044f, ["DESERET SMALL LETTER:LONG I,LONG E,LONG A,LONG AH,LONG O,LONG OO,SHORT I",
      "SHORT E,SHORT A,SHORT AH,SHORT O,SHORT OO,AY,OW,WU,YEE,H,PEE,BEE,TEE,DEE,CHEE,JEE,KAY,GAY",
      "EF,VEE,ETH,THEE,ES,ZEE,ESH,ZHEE,ER,EL,EM,EN,ENG,OI,EW"]⟩,
    ⟨0x10450, 0x1047f, ["SHAVIAN LETTER:PEEP,TOT,KICK,FEE,THIGH,SO,SURE,CHURCH,YEA,HUNG,BIB,DEAD",
      "GAG,VOW,THEY,ZOO,MEASURE,JUDGE,WOE,HA-HA,LOLL,MIME,IF,EGG,ASH,ADO,ON,WOOL,OUT,AH,ROAR,NUN",
      "EAT,AGE,ICE,UP,OAK,OOZE,OIL,AWE,ARE,OR,AIR,ERR,ARRAY,EAR,IAN,YEW"]⟩,
    ⟨0x10480, 0x1049d, ["OSMANYA LETTER:ALEF,BA,TA,JA,XA,KHA,DEEL,RA,SA,SHIIN,DHA,CAYN,GA,FA,QAAF",
      "KAAF,LAAN,MIIN,NUUN,WAW,HA,YA,A,E,I,O,U,AA,EE,OO"]⟩,
    ⟨0x104a0, 0x104a9, ["OSMANYA DIGIT:ZERO,ONE,TWO,THREE,FOUR,FIVE,SIX,SEVEN,EIGHT,NINE"]⟩,
    ⟨0x104b0, 0x104d3, ["OSAGE CAPITAL LETTER:A,AI,AIN,AH,BRA,CHA,EHCHA,E,EIN,HA,HYA,I,KA,EHKA,KYA",
      "LA,MA,NA,O,OIN,PA,EHPA,SA,SHA,TA,EHTA,TSA,EHTSA,TSHA,DHA,U,WA,KHA,GHA,ZA,ZHA"]⟩,
    ⟨0x104d8, 0x104fb, ["OSAGE SMALL LETTER:A,AI,AIN,AH,BRA,CHA,EHCHA,E,EIN,HA,HYA,I,KA,EHKA,KYA",
      "LA,MA,NA,O,OIN,PA,EHPA,SA,SHA,TA,EHTA,TSA,EHTSA,TSHA,DHA,U,WA,KHA,GHA,ZA,ZHA"]⟩,
    ⟨0x10500, 0x10527, ["ELBASAN LETTER:A,BE,CE,CHE,DE,NDE,DHE,EI,E,FE,GE,GJE,HE,I,JE,KE,LE,LLE,ME",
      "NE,NA,NJE,O,PE,QE,RE,RRE,SE,SHE,TE,THE,U,VE,XE,Y,ZE,ZHE,GHE,GHAMMA,KHE"]⟩,
    ⟨0x10530, 0x10563, ["CAUCASIAN ALBANIAN LETTER:ALT,BET,GIM,DAT,EB,ZARL,EYN,ZHIL,TAS,CHA,YOWD",
      "ZHA,IRB,SHA,LAN,INYA,XEYN,DYAN,CAR,JHOX,KAR,LYIT,HEYT,QAY,AOR,CHOY,CHI,CYAY,MAQ,QAR,NOWC",
      "DZYAY,SHAK,JAYN,ON,TYAY,FAM,DZAY,CHAT,PEN,GHEYS,RAT,SEYK,VEYZ,TIWR,SHOY,IWN,CYAW,CAYN,YAYD",
      "PIWR,KIW"]⟩,
    ⟨0x1056f, 0x1056f, [":CAUCASIAN ALBANIAN CITATION MARK"]⟩,
    ⟨0x10570, 0x1057a, ["VITHKUQI CAPITAL LETTER:A,BBE,BE,CE,CHE,DE,DHE,EI,E,FE,GA"]⟩,
    ⟨0x1057c, 0x1058a, ["VITHKUQI CAPITAL LETTER:HA,HHA,I,IJE,JE,KA,LA,LLA,ME,NE,NJE,O,PE,QA,RE"]⟩,
    ⟨0x1058c, 0x10592, ["VITHKUQI CAPITAL LETTER:SE,SHE,TE,THE,U,VE,XE"]⟩,
    ⟨0x10594, 0x10595, ["VITHKUQI CAPITAL LETTER:Y,ZE"]⟩,
    ⟨0x10597, 0x105a1, ["VITHKUQI SMALL LETTER:A,BBE,BE,CE,CHE,DE,DHE,EI,E,FE,GA"]⟩,
    ⟨0x105a3, 0x105b1, ["VITHKUQI SMALL LETTER:HA,HHA,I,IJE,JE,KA,LA,LLA,ME,NE,NJE,O,PE,QA,RE"]⟩,
    ⟨0x105b3, 0x105b9, ["VITHKUQI SMALL LETTER:SE,SHE,TE,THE,U,VE,XE"]⟩,
    ⟨0x105bb, 0x105bc, ["VITHKUQI SMALL LETTER:Y,ZE"]⟩,
    ⟨0x10600, 0x10736, ["LINEAR A SIGN:AB001,AB002,AB003,AB004,AB005,AB006,AB007,AB008,AB009,AB010",
      "AB011,AB013,AB016,AB017,AB020,AB021,AB021F,AB021M,AB022,AB022F,AB022M,AB023,AB023M,AB024",
      "AB026,AB027,AB028,A028B,AB029,AB030,AB031,AB034,AB037,AB038,AB039,AB040,AB041,AB044,AB045",
      "AB046,AB047,AB048,AB049,AB050,AB051,AB053,AB054,AB055,AB056,AB057,AB058,AB059,AB060,AB061",
      "AB065,AB066,AB067,AB069,AB070,AB073,AB074,AB076,AB077,AB078,AB079,AB080,AB081,AB082,AB085",
      "AB086,AB087,A100-102,AB118,AB120,A120B,AB122,AB123,AB131A,AB131B,A131C,AB164,AB171,AB180",
      "AB188,AB191,A301,A302,A303,A304,A305,A306,A307,A308,A309A,A309B,A309C,A310,A311,A312,A313A",
      "A313B,A313C,A314,A315,A316,A317,A318,A319,A320,A321,A322,A323,A324,A325,A326,A327,A328,A329",
      "A330,A331,A332,A333,A334,A335,A336,A337,A338,A339,A340,A341,A342,A343,A344,A345,A346,A347",
      "A348,A349,A350,A351,A352,A353,A354,A355,A356,A357,A358,A359,A360,A361,A362,A363,A364,A365",
      "A366,A367,A368,A369,A370,A371,A400-VAS,A401-VAS,A402-VAS,A403-VAS,A404-VAS,A405-VAS",
      "A406-VAS,A407-VAS,A408-VAS,A409-VAS,A410-VAS,A411-VAS,A412-VAS,A413-VAS,A414-VAS,A415-VAS",
      "A416-VAS,A417-VAS,A418-VAS,A501,A502,A503,A504,A505,A506,A508,A509,A510,A511,A512,A513,A515",
      "A516,A520,A521,A523,A524,A525,A526,A527,A528,A529,A530,A531,A532,A534,A535,A536,A537,A538",
      "A539,A540,A541,A542,A545,A547,A548,A549,A550,A551,A552,A553,A554,A555,A556,A557,A559,A563",
      "A564,A565,A566,A568,A569,A570,A571,A572,A573,A574,A575,A576,A577,A578,A579,A580,A581,A582",
      "A583,A584,A585,A586,A587,A588,A589,A591,A592,A594,A595,A596,A598,A600,A601,A602,A603,A604",
      "A606,A608,A609,A610,A611,A612,A613,A614,A615,A616,A617,A618,A619,A620,A621,A622,A623,A624",
      "A626,A627,A628,A629,A634,A637,A638,A640,A642,A643,A644,A645,A646,A648,A649,A651,A652,A653",
      "A654,A655,A656,A657,A658,A659,A660,A661,A662,A663,A664"]⟩,
    ⟨0x10740, 0x10755, ["LINEAR A SIGN:A701 A,A702 B,A703 D,A704 E,A705 F,A706 H,A707 J,A708 K",
      "A709 L,A709-2 L2,A709-3 L3,A709-4 L4,A709-6 L6,A710 W,A711 X,A712 Y,A713 OMEGA,A714 ABB",
      "A715 BB,A717 DD,A726 EYYY,A732 JE"]⟩,
    ⟨0x10760, 0x10767, ["LINEAR A SIGN:A800,A801,A802,A803,A804,A805,A806,A807"]⟩,
    ⟨0x10780, 0x10785, ["MODIFIER LETTER:SMALL CAPITAL AA,SUPERSCRIPT TRIANGULAR COLON",
      "SUPERSCRIPT HALF TRIANGULAR COLON,SMALL AE,SMALL CAPITAL B,SMALL B WITH HOOK"]⟩,
    ⟨0x10787, 0x107b0, ["MODIFIER LETTER SMALL:DZ DIGRAPH,DZ DIGRAPH WITH RETROFLEX HOOK",
      "DZ DIGRAPH WITH CURL,DEZH DIGRAPH,D WITH TAIL,D WITH HOOK,D WITH HOOK AND TAIL,REVERSED E",
      "CLOSED REVERSED OPEN E,FENG DIGRAPH,RAMS HORN,CAPITAL G,G WITH HOOK,CAPITAL G WITH HOOK",
      "H WITH STROKE,CAPITAL H,HENG WITH HOOK,DOTLESS J WITH STROKE AND HOOK,LS DIGRAPH,LZ DIGRAPH",
      "L WITH BELT,CAPITAL L WITH BELT,L WITH RETROFLEX HOOK AND BELT,LEZH",
      "LEZH WITH RETROFLEX HOOK,TURNED Y,TURNED Y WITH BELT,O WITH STROKE,CAPITAL OE,CLOSED OMEGA",
      "Q,TURNED R WITH LONG LEG,TURNED R WITH LONG LEG AND RETROFLEX HOOK,R WITH TAIL",
      "R WITH FISHHOOK,CAPITAL R,TC DIGRAPH WITH CURL,TS DIGRAPH,TS DIGRAPH WITH RETROFLEX HOOK",
      "TESH DIGRAPH,T WITH RETROFLEX HOOK,V WITH RIGHT HOOK"]⟩,
    ⟨0x107b2, 0x107ba, ["MODIFIER LETTER:SMALL CAPITAL Y,GLOTTAL STOP WITH STROKE",
      "REVERSED GLOTTAL STOP WITH STROKE,BILABIAL CLICK,DENTAL CLICK,LATERAL CLICK,ALVEOLAR CLICK",
      "RETROFLEX CLICK WITH RETROFLEX HOOK,SMALL S WITH CURL"]⟩,
    ⟨0x10800, 0x10805, ["CYPRIOT SYLLABLE:A,E,I,O,U,JA"]⟩,
    ⟨0x10808, 0x10808, [":CYPRIOT SYLLABLE JO"]⟩,
    ⟨0x1080a, 0x10835, ["CYPRIOT SYLLABLE:KA,KE,KI,KO,KU,LA,LE,LI,LO,LU,MA,ME,MI,MO,MU,NA,NE,NI,NO",
      "NU,PA,PE,PI,PO,PU,RA,RE,RI,RO,RU,SA,SE,SI,SO,SU,TA,TE,TI,TO,TU,WA,WE,WI,WO"]⟩,
    ⟨0x10837, 0x10838, ["CYPRIOT SYLLABLE:XA,XE"]⟩,
    ⟨0x1083c, 0x1083c, [":CYPRIOT SYLLABLE ZA"]⟩,
    ⟨0x1083f, 0x1083f, [":CYPRIOT SYLLABLE ZO"]⟩,
    ⟨0x10840, 0x10855, ["IMPERIAL ARAMAIC LETTER:ALEPH,BETH,GIMEL,DALETH,HE,WAW,ZAYIN,HETH,TETH",
      "YODH,KAPH,LAMEDH,MEM,NUN,SAMEKH,AYIN,PE,SADHE,QOPH,RESH,SHIN,TAW"]⟩,
    ⟨0x10857, 0x1085f, ["IMPERIAL ARAMAIC:SECTION SIGN,NUMBER ONE,NUMBER TWO,NUMBER THREE",
      "NUMBER TEN,NUMBER TWENTY,NUMBER ONE HUNDRED,NUMBER ONE THOUSAND,NUMBER TEN THOUSAND"]⟩,
    ⟨0x10860, 0x10876, ["PALMYRENE LETTER:ALEPH,BETH,GIMEL,DALETH,HE,WAW,ZAYIN,HETH,TETH,YODH,KAPH",
      "LAMEDH,MEM,FINAL NUN,NUN,SAMEKH,AYIN,PE,SADHE,QOPH,RESH,SHIN,TAW"]⟩,
    ⟨0x10877, 0x1087f, ["PALMYRENE:LEFT-POINTING FLEURON,RIGHT-POINTING FLEURON,NUMBER ONE",
      "NUMBER TWO,NUMBER THREE,NUMBER FOUR,NUMBER FIVE,NUMBER TEN,NUMBER TWENTY"]⟩,
    ⟨0x10880, 0x1089e, ["NABATAEAN LETTER:FINAL ALEPH,ALEPH,FINAL BETH,BETH,GIMEL,DALETH,FINAL HE",
      "HE,WAW,ZAYIN,HETH,TETH,FINAL YODH,YODH,FINAL KAPH,KAPH,FINAL LAMEDH,LAMEDH,FINAL MEM,MEM",
      "FINAL NUN,NUN,SAMEKH,AYIN,PE,SADHE,QOPH,RESH,FINAL SHIN,SHIN,TAW"]⟩,
    ⟨0x108a7, 0x108af, ["NABATAEAN:NUMBER ONE,NUMBER TWO,NUMBER THREE,NUMBER FOUR",
      "CRUCIFORM NUMBER FOUR,NUMBER FIVE,NUMBER TEN,NUMBER TWENTY,NUMBER ONE HUNDRED"]⟩,
    ⟨0x108e0, 0x108f2, ["HATRAN LETTER:ALEPH,BETH,GIMEL,DALETH-RESH,HE,WAW,ZAYN,HETH,TETH,YODH",
      "KAPH,LAMEDH,MEM,NUN,SAMEKH,AYN,PE,SADHE,QOPH"]⟩,
    ⟨0x108f4, 0x108f5, ["HATRAN LETTER:SHIN,TAW"]⟩,
    ⟨0x108fb, 0x108ff, ["HATRAN NUMBER:ONE,FIVE,TEN,TWENTY,ONE HUNDRED"]⟩,
    ⟨0x10900, 0x10915, ["PHOENICIAN LETTER:ALF,BET,GAML,DELT,HE,WAU,ZAI,HET,TET,YOD,KAF,LAMD,MEM",
      "NUN,SEMK,AIN,PE,SADE,QOF,ROSH,SHIN,TAU"]⟩,
    ⟨0x10916, 0x1091b, ["PHOENICIAN NUMBER:ONE,TEN,TWENTY,ONE HUNDRED,TWO,THREE"]⟩,
    ⟨0x1091f, 0x1091f, [":PHOENICIAN WORD SEPARATOR"]⟩,
    ⟨0x10920, 0x10939, ["LYDIAN LETTER:A,B,G,D,E,V,I,Y,K,L,M,N,O,R,SS,T,U,F,Q,S,TT,AN,EN,LY,NN,C"]⟩,
    ⟨0x1093f, 0x1093f, [":LYDIAN TRIANGULAR MARK"]⟩,
    ⟨0x10980, 0x1099d, ["MEROITIC HIEROGLYPHIC LETTER:A,E,I,O,YA,WA,BA,BA-2,PA,MA,NA,NA-2,NE,NE-2",
      "RA,RA-2,LA,KHA,HHA,SA,SA-2,SE,KA,QA,TA,TA-2,TE,TE-2,TO,DA"]⟩,
    ⟨0x1099e, 0x1099f, ["MEROITIC HIEROGLYPHIC SYMBOL:VIDJ,VIDJ-2"]⟩,
    ⟨0x109a0, 0x109b7, ["MEROITIC CURSIVE LETTER:A,E,I,O,YA,WA,BA,PA,MA,NA,NE,RA,LA,KHA,HHA,SA",
      "ARCHAIC SA,SE,KA,QA,TA,TE,TO,DA"]⟩,
    ⟨0x109bc, 0x109bf, ["MEROITIC CURSIVE:FRACTION ELEVEN TWELFTHS,FRACTION ONE HALF,LOGOGRAM RMT",
      "LOGOGRAM IMN"]⟩,
    ⟨0x109c0, 0x109cf, ["MEROITIC CURSIVE NUMBER:ONE,TWO,THREE,FOUR,FIVE,SIX,SEVEN,EIGHT,NINE,TEN",
      "TWENTY,THIRTY,FORTY,FIFTY,SIXTY,SEVENTY"]⟩,
    ⟨0x109d2, 0x109f5, ["MEROITIC CURSIVE NUMBER:ONE HUNDRED,TWO HUNDRED,THREE HUNDRED",
      "FOUR HUNDRED,FIVE HUNDRED,SIX HUNDRED,SEVEN HUNDRED,EIGHT HUNDRED,NINE HUNDRED,ONE THOUSAND",
      "TWO THOUSAND,THREE THOUSAND,FOUR THOUSAND,FIVE THOUSAND,SIX THOUSAND,SEVEN THOUSAND",
      "EIGHT THOUSAND,NINE THOUSAND,TEN THOUSAND,TWENTY THOUSAND,THIRTY THOUSAND,FORTY THOUSAND",
      "FIFTY THOUSAND,SIXTY THOUSAND,SEVENTY THOUSAND,EIGHTY THOUSAND,NINETY THOUSAND",
      "ONE HUNDRED THOUSAND,TWO HUNDRED THOUSAND,THREE HUNDRED THOUSAND,FOUR HUNDRED THOUSAND",
      "FIVE HUNDRED THOUSAND,SIX HUNDRED THOUSAND,SEVEN HUNDRED THOUSAND,EIGHT HUNDRED THOUSAND",
      "NINE HUNDRED THOUSAND"]⟩,
    ⟨0x109f6, 0x109ff, ["MEROITIC CURSIVE FRACTION:ONE TWELFTH,TWO TWELFTHS,THREE TWELFTHS",
      "FOUR TWELFTHS,FIVE TWELFTHS,SIX TWELFTHS,SEVEN TWELFTHS,EIGHT TWELFTHS,NINE TWELFTHS",
      "TEN TWELFTHS"]⟩,
    ⟨0x10a00, 0x10a03, ["KHAROSHTHI:LETTER A,VOWEL SIGN I,VOWEL SIGN U,VOWEL SIGN VOCALIC R"]⟩,
    ⟨0x10a05, 0x10a06, ["KHAROSHTHI VOWEL SIGN:E,O"]⟩,
    ⟨0x10a0c, 0x10a13, ["KHAROSHTHI:VOWEL LENGTH MARK,SIGN DOUBLE RING BELOW,SIGN ANUSVARA",
      "SIGN VISARGA,LETTER KA,LETTER KHA,LETTER GA,LETTER GHA"]⟩,
    ⟨0x10a15, 0x10a17, ["KHAROSHTHI LETTER:CA,CHA,JA"]⟩,
    ⟨0x10a19, 0x10a35, ["KHAROSHTHI LETTER:NYA,TTA,TTHA,DDA,DDHA,NNA,TA,THA,DA,DHA,NA,PA,PHA,BA",
      "BHA,MA,YA,RA,LA,VA,SHA,SSA,SA,ZA,HA,KKA,TTTHA,TTTA,VHA"]⟩,
    ⟨0x10a38, 0x10a3a, ["KHAROSHTHI SIGN:BAR ABOVE,CAUDA,DOT BELOW"]⟩,
    ⟨0x10a3f, 0x10a48, ["KHAROSHTHI:VIRAMA,DIGIT ONE,DIGIT TWO,DIGIT THREE,DIGIT FOUR,NUMBER TEN",
      "NUMBER TWENTY,NUMBER ONE HUNDRED,NUMBER ONE THOUSAND,FRACTION ONE HALF"]⟩,
    ⟨0x10a50, 0x10a58, ["KHAROSHTHI PUNCTUATION:DOT,SMALL CIRCLE,CIRCLE,CRESCENT BAR,MANGALAM",
      "LOTUS,DANDA,DOUBLE DANDA,LINES"]⟩,
    ⟨0x10a60, 0x10a7c, ["OLD SOUTH ARABIAN LETTER:HE,LAMEDH,HETH,MEM,QOPH,WAW,SHIN,RESH,BETH,TAW",
      "SAT,KAPH,NUN,KHETH,SADHE,SAMEKH,FE,ALEF,AYN,DHADHE,GIMEL,DALETH,GHAYN,TETH,ZAYN,DHALETH",
      "YODH,THAW,THETH"]⟩,
    ⟨0x10a7d, 0x10a7f, ["OLD SOUTH ARABIAN:NUMBER ONE,NUMBER FIFTY,NUMERIC INDICATOR"]⟩,
    ⟨0x10a80, 0x10a9c, ["OLD NORTH ARABIAN LETTER:HEH,LAM,HAH,MEEM,QAF,WAW,ES-2,REH,BEH,TEH,ES-1",
      "KAF,NOON,KHAH,SAD,ES-3,FEH,ALEF,AIN,DAD,GEEM,DAL,GHAIN,TAH,ZAIN,THAL,YEH,THEH,ZAH"]⟩,
    ⟨0x10a9d, 0x10a9f, ["OLD NORTH ARABIAN NUMBER:ONE,TEN,TWENTY"]⟩,
    ⟨0x10ac0, 0x10ac8, ["MANICHAEAN:LETTER ALEPH,LETTER BETH,LETTER BHETH,LETTER GIMEL",
      "LETTER GHIMEL,LETTER DALETH,LETTER HE,LETTER WAW,SIGN UD"]⟩,
    ⟨0x10ac9, 0x10ae4, ["MANICHAEAN LETTER:ZAYIN,ZHAYIN,JAYIN,JHAYIN,HETH,TETH,YODH,KAPH,XAPH",
      "KHAPH,LAMEDH,DHAMEDH,THAMEDH,MEM,NUN,SAMEKH,AYIN,AAYIN,PE,FE,SADHE,QOPH,XOPH,QHOPH,RESH",
      "SHIN,SSHIN,TAW"]⟩,
    ⟨0x10ae5, 0x10ae6, ["MANICHAEAN ABBREVIATION MARK:ABOVE,BELOW"]⟩,
    ⟨0x10aeb, 0x10aef, ["MANICHAEAN NUMBER:ONE,FIVE,TEN,TWENTY,ONE HUNDRED"]⟩,
    ⟨0x10af0, 0x10af6, ["MANICHAEAN PUNCTUATION:STAR,FLEURON,DOUBLE DOT WITHIN DOT,DOT WITHIN DOT",
      "DOT,TWO DOTS,LINE FILLER"]⟩,
    ⟨0x10b00, 0x10b35, ["AVESTAN LETTER:A,AA,AO,AAO,AN,AAN,AE,AEE,E,EE,O,OO,I,II,U,UU,KE,XE,XYE",
      "XVE,GE,GGE,GHE,CE,JE,TE,THE,DE,DHE,TTE,PE,FE,BE,BHE,NGE,NGYE,NGVE,NE,NYE,NNE,ME,HME,YYE,YE",
      "VE,RE,LE,SE,ZE,SHE,ZHE,SHYE,SSHE,HE"]⟩,
    ⟨0x10b39, 0x10b3f, [":AVESTAN ABBREVIATION MARK,TINY TWO DOTS OVER ONE DOT PUNCTUATION",
      "SMALL TWO DOTS OVER ONE DOT PUNCTUATION,LARGE TWO DOTS OVER ONE DOT PUNCTUATION",
      "LARGE ONE DOT OVER TWO DOTS PUNCTUATION,LARGE TWO RINGS OVER ONE RING PUNCTUATION",
      "LARGE ONE RING OVER TWO RINGS PUNCTUATION"]⟩,
    ⟨0x10b40, 0x10b55, ["INSCRIPTIONAL PARTHIAN LETTER:ALEPH,BETH,GIMEL,DALETH,HE,WAW,ZAYIN,HETH",
      "TETH,YODH,KAPH,LAMEDH,MEM,NUN,SAMEKH,AYIN,PE,SADHE,QOPH,RESH,SHIN,TAW"]⟩,
    ⟨0x10b58, 0x10b5f, ["INSCRIPTIONAL PARTHIAN NUMBER:ONE,TWO,THREE,FOUR,TEN,TWENTY,ONE HUNDRED",
      "ONE THOUSAND"]⟩,
    ⟨0x10b60, 0x10b72, ["INSCRIPTIONAL PAHLAVI LETTER:ALEPH,BETH,GIMEL,DALETH,HE,WAW-AYIN-RESH",
      "ZAYIN,HETH,TETH,YODH,KAPH,LAMEDH,MEM-QOPH,NUN,SAMEKH,PE,SADHE,SHIN,TAW"]⟩,
    ⟨0x10b78, 0x10b7f, ["INSCRIPTIONAL PAHLAVI NUMBER:ONE,TWO,THREE,FOUR,TEN,TWENTY,ONE HUNDRED",
      "ONE THOUSAND"]⟩,
    ⟨0x10b80, 0x10b91, ["PSALTER PAHLAVI LETTER:ALEPH,BETH,GIMEL,DALETH,HE,WAW-AYIN-RESH,ZAYIN",
      "HETH,YODH,KAPH,LAMEDH,MEM-QOPH,NUN,SAMEKH,PE,SADHE,SHIN,TAW"]⟩,
    ⟨0x10b99, 0x10b9c, ["PSALTER PAHLAVI:SECTION MARK,TURNED SECTION MARK,FOUR DOTS WITH CROSS",
      "FOUR DOTS WITH DOT"]⟩,
    ⟨0x10ba9, 0x10baf, ["PSALTER PAHLAVI NUMBER:ONE,TWO,THREE,FOUR,TEN,TWENTY,ONE HUNDRED"]⟩,
    ⟨0x10c00, 0x10c48, ["OLD TURKIC LETTER:ORKHON A,YENISEI A,YENISEI AE,ORKHON I,YENISEI I",
      "YENISEI E,ORKHON O,ORKHON OE,YENISEI OE,ORKHON AB,YENISEI AB,ORKHON AEB,YENISEI AEB",
      "ORKHON AG,YENISEI AG,ORKHON AEG,YENISEI AEG,ORKHON AD,YENISEI AD,ORKHON AED,ORKHON EZ",
      "YENISEI EZ,ORKHON AY,YENISEI AY,ORKHON AEY,YENISEI AEY,ORKHON AEK,YENISEI AEK,ORKHON OEK",
      "YENISEI OEK,ORKHON AL,YENISEI AL,ORKHON AEL,ORKHON ELT,ORKHON EM,ORKHON AN,ORKHON AEN",
      "YENISEI AEN,ORKHON ENT,YENISEI ENT,ORKHON ENC,YENISEI ENC,ORKHON ENY,YENISEI ENY",
      "YENISEI ANG,ORKHON ENG,YENISEI AENG,ORKHON EP,ORKHON OP,ORKHON IC,ORKHON EC,YENISEI EC",
      "ORKHON AQ,YENISEI AQ,ORKHON IQ,YENISEI IQ,ORKHON OQ,YENISEI OQ,ORKHON AR,YENISEI AR",
      "ORKHON AER,ORKHON AS,ORKHON AES,ORKHON ASH,YENISEI ASH,ORKHON ESH,YENISEI ESH,ORKHON AT",
      "YENISEI AT,ORKHON AET,YENISEI AET,ORKHON OT,ORKHON BASH"]⟩,
    ⟨0x10c80, 0x10cb2, ["OLD HUNGARIAN CAPITAL LETTER:A,AA,EB,AMB,EC,ENC,ECS,ED,AND,E,CLOSE E,EE",
      "EF,EG,EGY,EH,I,II,EJ,EK,AK,UNK,EL,ELY,EM,EN,ENY,O,OO,NIKOLSBURG OE,RUDIMENTA OE,OEE,EP,EMP",
      "ER,SHORT ER,ES,ESZ,ET,ENT,ETY,ECH,U,UU,NIKOLSBURG UE,RUDIMENTA UE,EV,EZ,EZS,ENT-SHAPED SIGN",
      "US"]⟩,
    ⟨0x10cc0, 0x10cf2, ["OLD HUNGARIAN SMALL LETTER:A,AA,EB,AMB,EC,ENC,ECS,ED,AND,E,CLOSE E,EE,EF",
      "EG,EGY,EH,I,II,EJ,EK,AK,UNK,EL,ELY,EM,EN,ENY,O,OO,NIKOLSBURG OE,RUDIMENTA OE,OEE,EP,EMP,ER",
      "SHORT ER,ES,ESZ,ET,ENT,ETY,ECH,U,UU,NIKOLSBURG UE,RUDIMENTA UE,EV,EZ,EZS,ENT-SHAPED SIGN",
      "US"]⟩,
    ⟨0x10cfa, 0x10cff, ["OLD HUNGARIAN NUMBER:ONE,FIVE,TEN,FIFTY,ONE HUNDRED,ONE THOUSAND"]⟩,
    ⟨0x10d00, 0x10d1c, ["HANIFI ROHINGYA LETTER:A,BA,PA,TA,TTA,JA,CA,HA,KHA,FA,DA,DDA,RA,RRA,ZA,SA",
      "SHA,KA,GA,LA,MA,NA,WA,KINNA WA,YA,KINNA YA,NGA,NYA,VA"]⟩,
    ⟨0x10d1d, 0x10d27, ["HANIFI ROHINGYA:VOWEL A,VOWEL I,VOWEL U,VOWEL E,VOWEL O,MARK SAKIN",
      "MARK NA KHONNA,SIGN HARBAHAY,SIGN TAHALA,SIGN TANA,SIGN TASSI"]⟩,
    ⟨0x10d30, 0x10d39, ["HANIFI ROHINGYA DIGIT:ZERO,ONE,TWO,THREE,FOUR,FIVE,SIX,SEVEN,EIGHT,NINE"]⟩,
    ⟨0x10e60, 0x10e68, ["RUMI DIGIT:ONE,TWO,THREE,FOUR,FIVE,SIX,SEVEN,EIGHT,NINE"]⟩,
    ⟨0x10e69, 0x10e7a, ["RUMI NUMBER:TEN,TWENTY,THIRTY,FORTY,FIFTY,SIXTY,SEVENTY,EIGHTY,NINETY",
      "ONE HUNDRED,TWO HUNDRED,THREE HUNDRED,FOUR HUNDRED,FIVE HUNDRED,SIX HUNDRED,SEVEN HUNDRED",
      "EIGHT HUNDRED,NINE HUNDRED"]⟩,
    ⟨0x10e7b, 0x10e7e, ["RUMI FRACTION:ONE HALF,ONE QUARTER,ONE THIRD,TWO THIRDS"]⟩,
    ⟨0x10e80, 0x10ea9, ["YEZIDI LETTER:ELIF,BE,PE,PHE,THE,SE,CIM,CHIM,CHHIM,HHA,XA,DAL,ZAL,RA,RHA",
      "ZA,JA,SIN,SHIN,SAD,DAD,TA,ZE,EYN,XHEYN,FA,VA,VA ALTERNATE FORM,QAF,KAF,KHAF,GAF,LAM,MIM,NUN",
      "UM,WAW,OW,EW,HAY,YOT,ET"]⟩,
    ⟨0x10eab, 0x10ead, ["YEZIDI:COMBINING HAMZA MARK,COMBINING MADDA MARK,HYPHENATION MARK"]⟩,
    ⟨0x10eb0, 0x10eb1, ["YEZIDI LETTER:LAM WITH DOT ABOVE,YOT WITH CIRCUMFLEX ABOVE"]⟩,
    ⟨0x10f00, 0x10f1c, ["OLD SOGDIAN LETTER:ALEPH,FINAL ALEPH,BETH,FINAL BETH,GIMEL,HE,FINAL HE",
      "WAW,ZAYIN,HETH,YODH,KAPH,LAMEDH,MEM,NUN,FINAL NUN,FINAL NUN WITH VERTICAL TAIL,SAMEKH,AYIN",
      "ALTERNATE AYIN,PE,SADHE,FINAL SADHE,FINAL SADHE WITH VERTICAL TAIL,RESH-AYIN-DALETH,SHIN",
      "TAW,FINAL TAW,FINAL TAW WITH VERTICAL TAIL"]⟩,
    ⟨0x10f1d, 0x10f27, ["OLD SOGDIAN:NUMBER ONE,NUMBER TWO,NUMBER THREE,NUMBER FOUR,NUMBER FIVE",
      "NUMBER TEN,NUMBER TWENTY,NUMBER THIRTY,NUMBER ONE HUNDRED,FRACTION ONE HALF",
      "LIGATURE AYIN-DALETH"]⟩,
    ⟨0x10f30, 0x10f44, ["SOGDIAN LETTER:ALEPH,BETH,GIMEL,HE,WAW,ZAYIN,HETH,YODH,KAPH,LAMEDH,MEM",
      "NUN,SAMEKH,AYIN,PE,SADHE,RESH-AYIN,SHIN,TAW,FETH,LESH"]⟩,
    ⟨0x10f45, 0x10f59, ["SOGDIAN:INDEPENDENT SHIN,COMBINING DOT BELOW,COMBINING TWO DOTS BELOW",
      "COMBINING DOT ABOVE,COMBINING TWO DOTS ABOVE,COMBINING CURVE ABOVE,COMBINING CURVE BELOW",
      "COMBINING HOOK ABOVE,COMBINING HOOK BELOW,COMBINING LONG HOOK BELOW,COMBINING RESH BELOW",
      "COMBINING STROKE BELOW,NUMBER ONE,NUMBER TEN,NUMBER TWENTY,NUMBER ONE HUNDRED",
      "PUNCTUATION TWO VERTICAL BARS,PUNCTUATION TWO VERTICAL BARS WITH DOTS",
      "PUNCTUATION CIRCLE WITH DOT,PUNCTUATION TWO CIRCLES WITH DOTS",
      "PUNCTUATION HALF CIRCLE WITH DOT"]⟩,
    ⟨0x10f70, 0x10f81, ["OLD UYGHUR LETTER:ALEPH,BETH,GIMEL-HETH,WAW,ZAYIN,FINAL HETH,YODH,KAPH",
      "LAMEDH,MEM,NUN,SAMEKH,PE,SADHE,RESH,SHIN,TAW,LESH"]⟩,
    ⟨0x10f82, 0x10f89, ["OLD UYGHUR:COMBINING DOT ABOVE,COMBINING DOT BELOW",
      "COMBINING TWO DOTS ABOVE,COMBINING TWO DOTS BELOW,PUNCTUATION BAR,PUNCTUATION TWO BARS",
      "PUNCTUATION TWO DOTS,PUNCTUATION FOUR DOTS"]⟩,
    ⟨0x10fb0, 0x10fc4, ["CHORASMIAN LETTER:ALEPH,SMALL ALEPH,BETH,GIMEL,DALETH,HE,WAW,CURLED WAW",
      "ZAYIN,HETH,YODH,KAPH,LAMEDH,MEM,NUN,SAMEKH,AYIN,PE,RESH,SHIN,TAW"]⟩,
    ⟨0x10fc5, 0x10fcb, ["CHORASMIAN NUMBER:ONE,TWO,THREE,FOUR,TEN,TWENTY,ONE HUNDRED"]⟩,
    ⟨0x10fe0, 0x10ff5, ["ELYMAIC LETTER:ALEPH,BETH,GIMEL,DALETH,HE,WAW,ZAYIN,HETH,TETH,YODH,KAPH",
      "LAMEDH,MEM,NUN,SAMEKH,AYIN,PE,SADHE,QOPH,RESH,SHIN,TAW"]⟩,
    ⟨0x10ff6, 0x10ff6, [":ELYMAIC LIGATURE ZAYIN-YODH"]⟩,
    ⟨0x11000, 0x11004, ["BRAHMI SIGN:CANDRABINDU,ANUSVARA,VISARGA,JIHVAMULIYA,UPADHMANIYA"]⟩,
    ⟨0x11005, 0x11037, ["BRAHMI LETTER:A,AA,I,II,U,UU,VOCALIC R,VOCALIC RR,VOCALIC L,VOCALIC LL,E",
      "AI,O,AU,KA,KHA,GA,GHA,NGA,CA,CHA,JA,JHA,NYA,TTA,TTHA,DDA,DDHA,NNA,TA,THA,DA,DHA,NA,PA,PHA",
      "BA,BHA,MA,YA,RA,LA,VA,SHA,SSA,SA,HA,LLA,OLD TAMIL LLLA,OLD TAMIL RRA,OLD TAMIL NNNA"]⟩,
    ⟨0x11038, 0x11045, ["BRAHMI VOWEL SIGN:AA,BHATTIPROLU AA,I,II,U,UU,VOCALIC R,VOCALIC RR",
      "VOCALIC L,VOCALIC LL,E,AI,O,AU"]⟩,
    ⟨0x11046, 0x1104d, ["BRAHMI:VIRAMA,DANDA,DOUBLE DANDA,PUNCTUATION DOT,PUNCTUATION DOUBLE DOT",
      "PUNCTUATION LINE,PUNCTUATION CRESCENT BAR,PUNCTUATION LOTUS"]⟩,
    ⟨0x11052, 0x11065, ["BRAHMI NUMBER:ONE,TWO,THREE,FOUR,FIVE,SIX,SEVEN,EIGHT,NINE,TEN,TWENTY",
      "THIRTY,FORTY,FIFTY,SIXTY,SEVENTY,EIGHTY,NINETY,ONE HUNDRED,ONE THOUSAND"]⟩,
    ⟨0x11066, 0x11075, ["BRAHMI:DIGIT ZERO,DIGIT ONE,DIGIT TWO,DIGIT THREE,DIGIT FOUR,DIGIT FIVE",
      "DIGIT SIX,DIGIT SEVEN,DIGIT EIGHT,DIGIT NINE,SIGN OLD TAMIL VIRAMA,LETTER OLD TAMIL SHORT E",
      "LETTER OLD TAMIL SHORT O,VOWEL SIGN OLD TAMIL SHORT E,VOWEL SIGN OLD TAMIL SHORT O",
      "LETTER OLD TAMIL LLA"]⟩,
    ⟨0x1107f, 0x11082, [":BRAHMI NUMBER JOINER,KAITHI SIGN CANDRABINDU,KAITHI SIGN ANUSVARA",
      "KAITHI SIGN VISARGA"]⟩,
    ⟨0x11083, 0x110af, ["KAITHI LETTER:A,AA,I,II,U,UU,E,AI,O,AU,KA,KHA,GA,GHA,NGA,CA,CHA,JA,JHA",
      "NYA,TTA,TTHA,DDA,DDDHA,DDHA,RHA,NNA,TA,THA,DA,DHA,NA,PA,PHA,BA,BHA,MA,YA,RA,LA,VA,SHA,SSA",
      "SA,HA"]⟩,
    ⟨0x110b0, 0x110b8, ["KAITHI VOWEL SIGN:AA,I,II,U,UU,E,AI,O,AU"]⟩,
    ⟨0x110b9, 0x110c2, ["KAITHI:SIGN VIRAMA,SIGN NUKTA,ABBREVIATION SIGN,ENUMERATION SIGN",
      "NUMBER SIGN,SECTION MARK,DOUBLE SECTION MARK,DANDA,DOUBLE DANDA,VOWEL SIGN VOCALIC R"]⟩,
    ⟨0x110cd, 0x110cd, [":KAITHI NUMBER SIGN ABOVE"]⟩,
    ⟨0x110d0, 0x110e8, ["SORA SOMPENG LETTER:SAH,TAH,BAH,CAH,DAH,GAH,MAH,NGAH,LAH,NAH,VAH,PAH,YAH",
      "RAH,HAH,KAH,JAH,NYAH,AH,EEH,IH,UH,OH,EH,MAE"]⟩,
    ⟨0x110f0, 0x110f9, ["SORA SOMPENG DIGIT:ZERO,ONE,TWO,THREE,FOUR,FIVE,SIX,SEVEN,EIGHT,NINE"]⟩,
    ⟨0x11100, 0x11102, ["CHAKMA SIGN:CANDRABINDU,ANUSVARA,VISARGA"]⟩,
    ⟨0x11103, 0x11126, ["CHAKMA LETTER:AA,I,U,E,KAA,KHAA,GAA,GHAA,NGAA,CAA,CHAA,JAA,JHAA,NYAA,TTAA",
      "TTHAA,DDAA,DDHAA,NNAA,TAA,THAA,DAA,DHAA,NAA,PAA,PHAA,BAA,BHAA,MAA,YYAA,YAA,RAA,LAA,WAA,SAA",
      "HAA"]⟩,
    ⟨0x11127, 0x11130, ["CHAKMA VOWEL SIGN:A,I,II,U,UU,E,AI,O,AU,OI"]⟩,
    ⟨0x11131, 0x11134, ["CHAKMA:O MARK,AU MARK,VIRAMA,MAAYYAA"]⟩,
    ⟨0x11136, 0x11147, ["CHAKMA:DIGIT ZERO,DIGIT ONE,DIGIT TWO,DIGIT THREE,DIGIT FOUR,DIGIT FIVE",
      "DIGIT SIX,DIGIT SEVEN,DIGIT EIGHT,DIGIT NINE,SECTION MARK,DANDA,DOUBLE DANDA,QUESTION MARK",
      "LETTER LHAA,VOWEL SIGN AA,VOWEL SIGN EI,LETTER VAA"]⟩,
    ⟨0x11150, 0x11172, ["MAHAJANI LETTER:A,I,U,E,O,KA,KHA,GA,GHA,CA,CHA,JA,JHA,NYA,TTA,TTHA,DDA",
      "DDHA,NNA,TA,THA,DA,DHA,NA,PA,PHA,BA,BHA,MA,RA,LA,VA,SA,HA,RRA"]⟩,
    ⟨0x11173, 0x11176, ["MAHAJANI:SIGN NUKTA,ABBREVIATION SIGN,SECTION MARK,LIGATURE SHRI"]⟩,
    ⟨0x11180, 0x11182, ["SHARADA SIGN:CANDRABINDU,ANUSVARA,VISARGA"]⟩,
    ⟨0x11183, 0x111b2, ["SHARADA LETTER:A,AA,I,II,U,UU,VOCALIC R,VOCALIC RR,VOCALIC L,VOCALIC LL,E",
      "AI,O,AU,KA,KHA,GA,GHA,NGA,CA,CHA,JA,JHA,NYA,TTA,TTHA,DDA,DDHA,NNA,TA,THA,DA,DHA,NA,PA,PHA",
      "BA,BHA,MA,YA,RA,LA,LLA,VA,SHA,SSA,SA,HA"]⟩,
    ⟨0x111b3, 0x111bf, ["SHARADA VOWEL SIGN:AA,I,II,U,UU,VOCALIC R,VOCALIC RR,VOCALIC L,VOCALIC LL",
      "E,AI,O,AU"]⟩,
    ⟨0x111c0, 0x111df, ["SHARADA:SIGN VIRAMA,SIGN AVAGRAHA,SIGN JIHVAMULIYA,SIGN UPADHMANIYA,OM",
      "DANDA,DOUBLE DANDA,ABBREVIATION SIGN,SEPARATOR,SANDHI MARK,SIGN NUKTA,VOWEL MODIFIER MARK",
      "EXTRA SHORT VOWEL MARK,SUTRA MARK,VOWEL SIGN PRISHTHAMATRA E,SIGN INVERTED CANDRABINDU",
      "DIGIT ZERO,DIGIT ONE,DIGIT TWO,DIGIT THREE,DIGIT FOUR,DIGIT FIVE,DIGIT SIX,DIGIT SEVEN",
      "DIGIT EIGHT,DIGIT NINE,EKAM,SIGN SIDDHAM,HEADSTROKE,CONTINUATION SIGN,SECTION MARK-1",
      "SECTION MARK-2"]⟩,
    ⟨0x111e1, 0x111e9, ["SINHALA ARCHAIC DIGIT:ONE,TWO,THREE,FOUR,FIVE,SIX,SEVEN,EIGHT,NINE"]⟩,
    ⟨0x111ea, 0x111f4, ["SINHALA ARCHAIC NUMBER:TEN,TWENTY,THIRTY,FORTY,FIFTY,SIXTY,SEVENTY,EIGHTY",
      "NINETY,ONE HUNDRED,ONE THOUSAND"]⟩,
    ⟨0x11200, 0x11211, ["KHOJKI LETTER:A,AA,I,U,E,AI,O,AU,KA,KHA,GA,GGA,GHA,NGA,CA,CHA,JA,JJA"]⟩,
    ⟨0x11213, 0x1122b, ["KHOJKI LETTER:NYA,TTA,TTHA,DDA,DDHA,NNA,TA,THA,DA,DDDA,DHA,NA,PA,PHA,BA",
      "BBA,BHA,MA,YA,RA,LA,VA,SA,HA,LLA"]⟩,
    ⟨0x1122c, 0x11233, ["KHOJKI VOWEL SIGN:AA,I,II,U,E,AI,O,AU"]⟩,
    ⟨0x11234, 0x1123e, ["KHOJKI:SIGN ANUSVARA,SIGN VIRAMA,SIGN NUKTA,SIGN SHADDA,DANDA",
      "DOUBLE DANDA,WORD SEPARATOR,SECTION MARK,DOUBLE SECTION MARK,ABBREVIATION SIGN,SIGN SUKUN"]⟩,
    ⟨0x11280, 0x11286, ["MULTANI LETTER:A,I,U,E,KA,KHA,GA"]⟩,
    ⟨0x11288, 0x11288, [":MULTANI LETTER GHA"]⟩,
    ⟨0x1128a, 0x1128d, ["MULTANI LETTER:CA,CHA,JA,JJA"]⟩,
    ⟨0x1128f, 0x1129d, ["MULTANI LETTER:NYA,TTA,TTHA,DDA,DDDA,DDHA,NNA,TA,THA,DA,DHA,NA,PA,PHA",
      "BA"]⟩,
    ⟨0x1129f, 0x112a9, ["MULTANI:LETTER BHA,LETTER MA,LETTER YA,LETTER RA,LETTER LA,LETTER VA",
      "LETTER SA,LETTER HA,LETTER RRA,LETTER RHA,SECTION MARK"]⟩,
    ⟨0x112b0, 0x112de, ["KHUDAWADI LETTER:A,AA,I,II,U,UU,E,AI,O,AU,KA,KHA,GA,GGA,GHA,NGA,CA,CHA,JA",
      "JJA,JHA,NYA,TTA,TTHA,DDA,DDDA,RRA,DDHA,NNA,TA,THA,DA,DHA,NA,PA,PHA,BA,BBA,BHA,MA,YA,RA,LA",
      "VA,SHA,SA,HA"]⟩,
    ⟨0x112df, 0x112ea, ["KHUDAWADI:SIGN ANUSVARA,VOWEL SIGN AA,VOWEL SIGN I,VOWEL SIGN II",
      "VOWEL SIGN U,VOWEL SIGN UU,VOWEL SIGN E,VOWEL SIGN AI,VOWEL SIGN O,VOWEL SIGN AU,SIGN NUKTA",
      "SIGN VIRAMA"]⟩,
    ⟨0x112f0, 0x112f9, ["KHUDAWADI DIGIT:ZERO,ONE,TWO,THREE,FOUR,FIVE,SIX,SEVEN,EIGHT,NINE"]⟩,
    ⟨0x11300, 0x11303, ["GRANTHA SIGN:COMBINING ANUSVARA ABOVE,CANDRABINDU,ANUSVARA,VISARGA"]⟩,
    ⟨0x11305, 0x1130c, ["GRANTHA LETTER:A,AA,I,II,U,UU,VOCALIC R,VOCALIC L"]⟩,
    ⟨0x1130f, 0x11310, ["GRANTHA LETTER:EE,AI"]⟩,
    ⟨0x11313, 0x11328, ["GRANTHA LETTER:OO,AU,KA,KHA,GA,GHA,NGA,CA,CHA,JA,JHA,NYA,TTA,TTHA,DDA",
      "DDHA,NNA,TA,THA,DA,DHA,NA"]⟩,
    ⟨0x1132a, 0x11330, ["GRANTHA LETTER:PA,PHA,BA,BHA,MA,YA,RA"]⟩,
    ⟨0x11332, 0x11333, ["GRANTHA LETTER:LA,LLA"]⟩,
    ⟨0x11335, 0x11339, ["GRANTHA LETTER:VA,SHA,SSA,SA,HA"]⟩,
    ⟨0x1133b, 0x1133d, [":COMBINING BINDU BELOW,GRANTHA SIGN NUKTA,GRANTHA SIGN AVAGRAHA"]⟩,
    ⟨0x1133e, 0x11344, ["GRANTHA VOWEL SIGN:AA,I,II,U,UU,VOCALIC R,VOCALIC RR"]⟩,
    ⟨0x11347, 0x11348, ["GRANTHA VOWEL SIGN:EE,AI"]⟩,
    ⟨0x1134b, 0x1134d, ["GRANTHA:VOWEL SIGN OO,VOWEL SIGN AU,SIGN VIRAMA"]⟩,
    ⟨0x11350, 0x11350, [":GRANTHA OM"]⟩,
    ⟨0x11357, 0x11357, [":GRANTHA AU LENGTH MARK"]⟩,
    ⟨0x1135d, 0x11363, ["GRANTHA:SIGN PLUTA,LETTER VEDIC ANUSVARA,LETTER VEDIC DOUBLE ANUSVARA",
      "LETTER VOCALIC RR,LETTER VOCALIC LL,VOWEL SIGN VOCALIC L,VOWEL SIGN VOCALIC LL"]⟩,
    ⟨0x11366, 0x1136c, ["COMBINING GRANTHA DIGIT:ZERO,ONE,TWO,THREE,FOUR,FIVE,SIX"]⟩,
    ⟨0x11370, 0x11374, ["COMBINING GRANTHA LETTER:A,KA,NA,VI,PA"]⟩,
    ⟨0x11400, 0x11434, ["NEWA LETTER:A,AA,I,II,U,UU,VOCALIC R,VOCALIC RR,VOCALIC L,VOCALIC LL,E,AI",
      "O,AU,KA,KHA,GA,GHA,NGA,NGHA,CA,CHA,JA,JHA,NYA,NYHA,TTA,TTHA,DDA,DDHA,NNA,TA,THA,DA,DHA,NA",
      "NHA,PA,PHA,BA,BHA,MA,MHA,YA,RA,RHA,LA,LHA,WA,SHA,SSA,SA,HA"]⟩,
    ⟨0x11435, 0x11441, ["NEWA VOWEL SIGN:AA,I,II,U,UU,VOCALIC R,VOCALIC RR,VOCALIC L,VOCALIC LL,E",
      "AI,O,AU"]⟩,
    ⟨0x11442, 0x1145b, ["NEWA:SIGN VIRAMA,SIGN CANDRABINDU,SIGN ANUSVARA,SIGN VISARGA,SIGN NUKTA",
      "SIGN AVAGRAHA,SIGN FINAL ANUSVARA,OM,SIDDHI,DANDA,DOUBLE DANDA,COMMA,GAP FILLER",
      "ABBREVIATION SIGN,DIGIT ZERO,DIGIT ONE,DIGIT TWO,DIGIT THREE,DIGIT FOUR,DIGIT FIVE",
      "DIGIT SIX,DIGIT SEVEN,DIGIT EIGHT,DIGIT NINE,DOUBLE COMMA,PLACEHOLDER MARK"]⟩,
    ⟨0x1145d, 0x11461, ["NEWA:INSERTION SIGN,SANDHI MARK,LETTER VEDIC ANUSVARA,SIGN JIHVAMULIYA",
      "SIGN UPADHMANIYA"]⟩,
    ⟨0x11480, 0x11480, [":TIRHUTA ANJI"]⟩,
    ⟨0x11481, 0x114af, ["TIRHUTA LETTER:A,AA,I,II,U,UU,VOCALIC R,VOCALIC RR,VOCALIC L,VOCALIC LL,E",
      "AI,O,AU,KA,KHA,GA,GHA,NGA,CA,CHA,JA,JHA,NYA,TTA,TTHA,DDA,DDHA,NNA,TA,THA,DA,DHA,NA,PA,PHA",
      "BA,BHA,MA,YA,RA,LA,VA,SHA,SSA,SA,HA"]⟩,
    ⟨0x114b0, 0x114be, ["TIRHUTA VOWEL SIGN:AA,I,II,U,UU,VOCALIC R,VOCALIC RR,VOCALIC L,VOCALIC LL",
      "E,SHORT E,AI,O,SHORT O,AU"]⟩,
    ⟨0x114bf, 0x114c7, ["TIRHUTA:SIGN CANDRABINDU,SIGN ANUSVARA,SIGN VISARGA,SIGN VIRAMA",
      "SIGN NUKTA,SIGN AVAGRAHA,GVANG,ABBREVIATION SIGN,OM"]⟩,
    ⟨0x114d0, 0x114d9, ["TIRHUTA DIGIT:ZERO,ONE,TWO,THREE,FOUR,FIVE,SIX,SEVEN,EIGHT,NINE"]⟩,
    ⟨0x11580, 0x115ae, ["SIDDHAM LETTER:A,AA,I,II,U,UU,VOCALIC R,VOCALIC RR,VOCALIC L,VOCALIC LL,E",
      "AI,O,AU,KA,KHA,GA,GHA,NGA,CA,CHA,JA,JHA,NYA,TTA,TTHA,DDA,DDHA,NNA,TA,THA,DA,DHA,NA,PA,PHA",
      "BA,BHA,MA,YA,RA,LA,VA,SHA,SSA,SA,HA"]⟩,
    ⟨0x115af, 0x115b5, ["SIDDHAM VOWEL SIGN:AA,I,II,U,UU,VOCALIC R,VOCALIC RR"]⟩,
    ⟨0x115b8, 0x115c9, ["SIDDHAM:VOWEL SIGN E,VOWEL SIGN AI,VOWEL SIGN O,VOWEL SIGN AU",
      "SIGN CANDRABINDU,SIGN ANUSVARA,SIGN VISARGA,SIGN VIRAMA,SIGN NUKTA,SIGN SIDDHAM,DANDA",
      "DOUBLE DANDA,SEPARATOR DOT,SEPARATOR BAR,REPETITION MARK-1,REPETITION MARK-2",
      "REPETITION MARK-3,END OF TEXT MARK"]⟩,
    ⟨0x115ca, 0x115d7, ["SIDDHAM SECTION MARK:WITH TRIDENT AND U-SHAPED ORNAMENTS",
      "WITH TRIDENT AND DOTTED CRESCENTS,WITH RAYS AND DOTTED CRESCENTS",
      "WITH RAYS AND DOTTED DOUBLE CRESCENTS,WITH RAYS AND DOTTED TRIPLE CRESCENTS,DOUBLE RING",
      "DOUBLE RING WITH RAYS,WITH DOUBLE CRESCENTS,WITH TRIPLE CRESCENTS,WITH QUADRUPLE CRESCENTS",
      "WITH SEPTUPLE CRESCENTS,WITH CIRCLES AND RAYS,WITH CIRCLES AND TWO ENCLOSURES",
      "WITH CIRCLES AND FOUR ENCLOSURES"]⟩,
    ⟨0x115d8, 0x115dd, ["SIDDHAM:LETTER THREE-CIRCLE ALTERNATE I,LETTER TWO-CIRCLE ALTERNATE I",
      "LETTER TWO-CIRCLE ALTERNATE II,LETTER ALTERNATE U,VOWEL SIGN ALTERNATE U",
      "VOWEL SIGN ALTERNATE UU"]⟩,
    ⟨0x11600, 0x1162f, ["MODI LETTER:A,AA,I,II,U,UU,VOCALIC R,VOCALIC RR,VOCALIC L,VOCALIC LL,E,AI",
      "O,AU,KA,KHA,GA,GHA,NGA,CA,CHA,JA,JHA,NYA,TTA,TTHA,DDA,DDHA,NNA,TA,THA,DA,DHA,NA,PA,PHA,BA",
      "BHA,MA,YA,RA,LA,VA,SHA,SSA,SA,HA,LLA"]⟩,
    ⟨0x11630, 0x1163c, ["MODI VOWEL SIGN:AA,I,II,U,UU,VOCALIC R,VOCALIC RR,VOCALIC L,VOCALIC LL,E",
      "AI,O,AU"]⟩,
    ⟨0x1163d, 0x11644, ["MODI:SIGN ANUSVARA,SIGN VISARGA,SIGN VIRAMA,SIGN ARDHACANDRA,DANDA",
      "DOUBLE DANDA,ABBREVIATION SIGN,SIGN HUVA"]⟩,
    ⟨0x11650, 0x11659, ["MODI DIGIT:ZERO,ONE,TWO,THREE,FOUR,FIVE,SIX,SEVEN,EIGHT,NINE"]⟩,
    ⟨0x11660, 0x1166c, ["MONGOLIAN:BIRGA WITH ORNAMENT,ROTATED BIRGA,DOUBLE BIRGA WITH ORNAMENT",
      "TRIPLE BIRGA WITH ORNAMENT,BIRGA WITH DOUBLE ORNAMENT,ROTATED BIRGA WITH ORNAMENT",
      "ROTATED BIRGA WITH DOUBLE ORNAMENT,INVERTED BIRGA,INVERTED BIRGA WITH DOUBLE ORNAMENT",
      "SWIRL BIRGA,SWIRL BIRGA WITH ORNAMENT,SWIRL BIRGA WITH DOUBLE ORNAMENT",
      "TURNED SWIRL BIRGA WITH DOUBLE ORNAMENT"]⟩,
    ⟨0x11680, 0x116aa, ["TAKRI LETTER:A,AA,I,II,U,UU,E,AI,O,AU,KA,KHA,GA,GHA,NGA,CA,CHA,JA,JHA,NYA",
      "TTA,TTHA,DDA,DDHA,NNA,TA,THA,DA,DHA,NA,PA,PHA,BA,BHA,MA,YA,RA,LA,VA,SHA,SA,HA,RRA"]⟩,
    ⟨0x116ab, 0x116b9, ["TAKRI:SIGN ANUSVARA,SIGN VISARGA,VOWEL SIGN AA,VOWEL SIGN I,VOWEL SIGN II",
      "VOWEL SIGN U,VOWEL SIGN UU,VOWEL SIGN E,VOWEL SIGN AI,VOWEL SIGN O,VOWEL SIGN AU",
      "SIGN VIRAMA,SIGN NUKTA,LETTER ARCHAIC KHA,ABBREVIATION SIGN"]⟩,
    ⟨0x116c0, 0x116c9, ["TAKRI DIGIT:ZERO,ONE,TWO,THREE,FOUR,FIVE,SIX,SEVEN,EIGHT,NINE"]⟩,
    ⟨0x11700, 0x1171a, ["AHOM LETTER:KA,KHA,NGA,NA,TA,ALTERNATE TA,PA,PHA,BA,MA,JA,CHA,THA,RA,LA",
      "SA,NYA,HA,A,DA,DHA,GA,ALTERNATE GA,GHA,BHA,JHA,ALTERNATE BA"]⟩,
    ⟨0x1171d, 0x1171f, ["AHOM CONSONANT SIGN MEDIAL:LA,RA,LIGATING RA"]⟩,
    ⟨0x11720, 0x1172a, ["AHOM VOWEL SIGN:A,AA,I,II,U,UU,E,AW,O,AI,AM"]⟩,
    ⟨0x1172b, 0x1172b, [":AHOM SIGN KILLER"]⟩,
    ⟨0x11730, 0x11746, ["AHOM:DIGIT ZERO,DIGIT ONE,DIGIT TWO,DIGIT THREE,DIGIT FOUR,DIGIT FIVE",
      "DIGIT SIX,DIGIT SEVEN,DIGIT EIGHT,DIGIT NINE,NUMBER TEN,NUMBER TWENTY,SIGN SMALL SECTION",
      "SIGN SECTION,SIGN RULAI,SYMBOL VI,LETTER CA,LETTER TTA,LETTER TTHA,LETTER DDA,LETTER DDHA",
      "LETTER NNA,LETTER LLA"]⟩,
    ⟨0x11800, 0x1182b, ["DOGRA LETTER:A,AA,I,II,U,UU,E,AI,O,AU,KA,KHA,GA,GHA,NGA,CA,CHA,JA,JHA,NYA",
      "TTA,TTHA,DDA,DDHA,NNA,TA,THA,DA,DHA,NA,PA,PHA,BA,BHA,MA,YA,RA,LA,VA,SHA,SSA,SA,HA,RRA"]⟩,
    ⟨0x1182c, 0x11836, ["DOGRA VOWEL SIGN:AA,I,II,U,UU,VOCALIC R,VOCALIC RR,E,AI,O,AU"]⟩,
    ⟨0x11837, 0x1183b, ["DOGRA:SIGN ANUSVARA,SIGN VISARGA,SIGN VIRAMA,SIGN NUKTA",
      "ABBREVIATION SIGN"]⟩,
    ⟨0x118a0, 0x118bf, ["WARANG CITI CAPITAL LETTER:NGAA,A,WI,YU,YA,YO,II,UU,E,O,ANG,GA,KO,ENY,YUJ",
      "UC,ENN,ODD,TTE,NUNG,DA,AT,AM,BU,PU,HIYO,HOLO,HORR,HAR,SSUU,SII,VIYO"]⟩,
    ⟨0x118c0, 0x118df, ["WARANG CITI SMALL LETTER:NGAA,A,WI,YU,YA,YO,II,UU,E,O,ANG,GA,KO,ENY,YUJ",
      "UC,ENN,ODD,TTE,NUNG,DA,AT,AM,BU,PU,HIYO,HOLO,HORR,HAR,SSUU,SII,VIYO"]⟩,
    ⟨0x118e0, 0x118e9, ["WARANG CITI DIGIT:ZERO,ONE,TWO,THREE,FOUR,FIVE,SIX,SEVEN,EIGHT,NINE"]⟩,
    ⟨0x118ea, 0x118f2, ["WARANG CITI NUMBER:TEN,TWENTY,THIRTY,FORTY,FIFTY,SIXTY,SEVENTY,EIGHTY",
      "NINETY"]⟩,
    ⟨0x118ff, 0x118ff, [":WARANG CITI OM"]⟩,
    ⟨0x11900, 0x11906, ["DIVES AKURU LETTER:A,AA,I,II,U,UU,E"]⟩,
    ⟨0x11909, 0x11909, [":DIVES AKURU LETTER O"]⟩,
    ⟨0x1190c, 0x11913, ["DIVES AKURU LETTER:KA,KHA,GA,GHA,NGA,CA,CHA,JA"]⟩,
    ⟨0x11915, 0x11916, ["DIVES AKURU LETTER:NYA,TTA"]⟩,
    ⟨0x11918, 0x1192f, ["DIVES AKURU LETTER:DDA,DDHA,NNA,TA,THA,DA,DHA,NA,PA,PHA,BA,BHA,MA,YA,YYA",
      "RA,LA,VA,SHA,SSA,SA,HA,LLA,ZA"]⟩,
    ⟨0x11930, 0x11935, ["DIVES AKURU VOWEL SIGN:AA,I,II,U,UU,E"]⟩,
    ⟨0x11937, 0x11938, ["DIVES AKURU VOWEL SIGN:AI,O"]⟩,
    ⟨0x1193b, 0x11946, ["DIVES AKURU:SIGN ANUSVARA,SIGN CANDRABINDU,SIGN HALANTA,VIRAMA",
      "PREFIXED NASAL SIGN,MEDIAL YA,INITIAL RA,MEDIAL RA,SIGN NUKTA,DOUBLE DANDA,GAP FILLER",
      "END OF TEXT MARK"]⟩,
    ⟨0x11950, 0x11959, ["DIVES AKURU DIGIT:ZERO,ONE,TWO,THREE,FOUR,FIVE,SIX,SEVEN,EIGHT,NINE"]⟩,
    ⟨0x119a0, 0x119a7, ["NANDINAGARI LETTER:A,AA,I,II,U,UU,VOCALIC R,VOCALIC RR"]⟩,
    ⟨0x119aa, 0x119d0, ["NANDINAGARI LETTER:E,AI,O,AU,KA,KHA,GA,GHA,NGA,CA,CHA,JA,JHA,NYA,TTA,TTHA",
      "DDA,DDHA,NNA,TA,THA,DA,DHA,NA,PA,PHA,BA,BHA,MA,YA,RA,LA,VA,SHA,SSA,SA,HA,LLA,RRA"]⟩,
    ⟨0x119d1, 0x119d7, ["NANDINAGARI VOWEL SIGN:AA,I,II,U,UU,VOCALIC R,VOCALIC RR"]⟩,
    ⟨0x119da, 0x119e4, ["NANDINAGARI:VOWEL SIGN E,VOWEL SIGN AI,VOWEL SIGN O,VOWEL SIGN AU",
      "SIGN ANUSVARA,SIGN VISARGA,SIGN VIRAMA,SIGN AVAGRAHA,SIGN SIDDHAM,HEADSTROKE",
      "VOWEL SIGN PRISHTHAMATRA E"]⟩,
    ⟨0x11a00, 0x11a0a, ["ZANABAZAR SQUARE:LETTER A,VOWEL SIGN I,VOWEL SIGN UE,VOWEL SIGN U",
      "VOWEL SIGN E,VOWEL SIGN OE,VOWEL SIGN O,VOWEL SIGN AI,VOWEL SIGN AU,VOWEL SIGN REVERSED I",
      "VOWEL LENGTH MARK"]⟩,
    ⟨0x11a0b, 0x11a32, ["ZANABAZAR SQUARE LETTER:KA,KHA,GA,GHA,NGA,CA,CHA,JA,NYA,TTA,TTHA,DDA,DDHA",
      "NNA,TA,THA,DA,DHA,NA,PA,PHA,BA,BHA,MA,TSA,TSHA,DZA,DZHA,ZHA,ZA,-A,YA,RA,LA,VA,SHA,SSA,SA,HA",
      "KSSA"]⟩,
    ⟨0x11a33, 0x11a47, ["ZANABAZAR SQUARE:FINAL CONSONANT MARK,SIGN VIRAMA,SIGN CANDRABINDU",
      "SIGN CANDRABINDU WITH ORNAMENT,SIGN CANDRA WITH ORNAMENT,SIGN ANUSVARA,SIGN VISARGA",
      "CLUSTER-INITIAL LETTER RA,CLUSTER-FINAL LETTER YA,CLUSTER-FINAL LETTER RA",
      "CLUSTER-FINAL LETTER LA,CLUSTER-FINAL LETTER VA,INITIAL HEAD MARK,CLOSING HEAD MARK",
      "MARK TSHEG,MARK SHAD,MARK DOUBLE SHAD,MARK LONG TSHEG,INITIAL DOUBLE-LINED HEAD MARK",
      "CLOSING DOUBLE-LINED HEAD MARK,SUBJOINER"]⟩,
    ⟨0x11a50, 0x11a5b, ["SOYOMBO:LETTER A,VOWEL SIGN I,VOWEL SIGN UE,VOWEL SIGN U,VOWEL SIGN E",
      "VOWEL SIGN O,VOWEL SIGN OE,VOWEL SIGN AI,VOWEL SIGN AU,VOWEL SIGN VOCALIC R",
      "VOWEL SIGN VOCALIC L,VOWEL LENGTH MARK"]⟩,
    ⟨0x11a5c, 0x11a83, ["SOYOMBO LETTER:KA,KHA,GA,GHA,NGA,CA,CHA,JA,JHA,NYA,TTA,TTHA,DDA,DDHA,NNA",
      "TA,THA,DA,DHA,NA,PA,PHA,BA,BHA,MA,TSA,TSHA,DZA,ZHA,ZA,-A,YA,RA,LA,VA,SHA,SSA,SA,HA,KSSA"]⟩,
    ⟨0x11a84, 0x11a85, ["SOYOMBO SIGN:JIHVAMULIYA,UPADHMANIYA"]⟩,
    ⟨0x11a86, 0x11a89, ["SOYOMBO CLUSTER-INITIAL LETTER:RA,LA,SHA,SA"]⟩,
    ⟨0x11a8a, 0x11a95, ["SOYOMBO FINAL CONSONANT SIGN:G,K,NG,D,N,B,M,R,L,SH,S,-A"]⟩,
    ⟨0x11a96, 0x11aa2, ["SOYOMBO:SIGN ANUSVARA,SIGN VISARGA,GEMINATION MARK,SUBJOINER,MARK TSHEG",
      "MARK SHAD,MARK DOUBLE SHAD,MARK PLUTA,HEAD MARK WITH MOON AND SUN AND TRIPLE FLAME",
      "HEAD MARK WITH MOON AND SUN AND FLAME,HEAD MARK WITH MOON AND SUN,TERMINAL MARK-1",
      "TERMINAL MARK-2"]⟩,
    ⟨0x11ab0, 0x11abb, ["CANADIAN SYLLABICS NATTILIK:HI,HII,HO,HOO,HA,HAA,SHRI,SHRII,SHRO,SHROO",
      "SHRA,SHRAA"]⟩,
    ⟨0x11abc, 0x11abf, ["CANADIAN SYLLABICS:SPE,SPI,SPO,SPA"]⟩,
    ⟨0x11ac0, 0x11ae4, ["PAU CIN HAU LETTER:PA,KA,LA,MA,DA,ZA,VA,NGA,HA,GA,KHA,SA,BA,CA,TA,THA,NA",
      "PHA,RA,FA,CHA,A,E,I,O,U,UA,IA,FINAL P,FINAL K,FINAL T,FINAL M,FINAL N,FINAL L,FINAL W",
      "FINAL NG,FINAL Y"]⟩,
    ⟨0x11ae5, 0x11af8, ["PAU CIN HAU:RISING TONE LONG,RISING TONE,SANDHI GLOTTAL STOP",
      "RISING TONE LONG FINAL,RISING TONE FINAL,SANDHI GLOTTAL STOP FINAL,SANDHI TONE LONG",
      "SANDHI TONE,SANDHI TONE LONG FINAL,SANDHI TONE FINAL,MID-LEVEL TONE,GLOTTAL STOP VARIANT",
      "MID-LEVEL TONE LONG FINAL,MID-LEVEL TONE FINAL,LOW-FALLING TONE LONG,LOW-FALLING TONE",
      "GLOTTAL STOP,LOW-FALLING TONE LONG FINAL,LOW-FALLING TONE FINAL,GLOTTAL STOP FINAL"]⟩,
    ⟨0x11c00, 0x11c08, ["BHAIKSUKI LETTER:A,AA,I,II,U,UU,VOCALIC R,VOCALIC RR,VOCALIC L"]⟩,
    ⟨0x11c0a, 0x11c2e, ["BHAIKSUKI LETTER:E,AI,O,AU,KA,KHA,GA,GHA,NGA,CA,CHA,JA,JHA,NYA,TTA,TTHA",
      "DDA,DDHA,NNA,TA,THA,DA,DHA,NA,PA,PHA,BA,BHA,MA,YA,RA,LA,VA,SHA,SSA,SA,HA"]⟩,
    ⟨0x11c2f, 0x11c36, ["BHAIKSUKI VOWEL SIGN:AA,I,II,U,UU,VOCALIC R,VOCALIC RR,VOCALIC L"]⟩,
    ⟨0x11c38, 0x11c45, ["BHAIKSUKI:VOWEL SIGN E,VOWEL SIGN AI,VOWEL SIGN O,VOWEL SIGN AU",
      "SIGN CANDRABINDU,SIGN ANUSVARA,SIGN VISARGA,SIGN VIRAMA,SIGN AVAGRAHA,DANDA,DOUBLE DANDA",
      "WORD SEPARATOR,GAP FILLER-1,GAP FILLER-2"]⟩,
    ⟨0x11c50, 0x11c59, ["BHAIKSUKI DIGIT:ZERO,ONE,TWO,THREE,FOUR,FIVE,SIX,SEVEN,EIGHT,NINE"]⟩,
    ⟨0x11c5a, 0x11c6b, ["BHAIKSUKI NUMBER:ONE,TWO,THREE,FOUR,FIVE,SIX,SEVEN,EIGHT,NINE,TEN,TWENTY",
      "THIRTY,FORTY,FIFTY,SIXTY,SEVENTY,EIGHTY,NINETY"]⟩,
    ⟨0x11c6c, 0x11c6c, [":BHAIKSUKI HUNDREDS UNIT MARK"]⟩,
    ⟨0x11c70, 0x11c71, ["MARCHEN:HEAD MARK,MARK SHAD"]⟩,
    ⟨0x11c72, 0x11c8f, ["MARCHEN LETTER:KA,KHA,GA,NGA,CA,CHA,JA,NYA,TA,THA,DA,NA,PA,PHA,BA,MA,TSA",
      "TSHA,DZA,WA,ZHA,ZA,-A,YA,RA,LA,SHA,SA,HA,A"]⟩,
    ⟨0x11c92, 0x11ca7, ["MARCHEN SUBJOINED LETTER:KA,KHA,GA,NGA,CA,CHA,JA,NYA,TA,THA,DA,NA,PA,PHA",
      "BA,MA,TSA,TSHA,DZA,WA,ZHA,ZA"]⟩,
    ⟨0x11ca9, 0x11caf, ["MARCHEN SUBJOINED LETTER:YA,RA,LA,SHA,SA,HA,A"]⟩,
    ⟨0x11cb0, 0x11cb6, ["MARCHEN:VOWEL SIGN AA,VOWEL SIGN I,VOWEL SIGN U,VOWEL SIGN E,VOWEL SIGN O",
      "SIGN ANUSVARA,SIGN CANDRABINDU"]⟩,
    ⟨0x11d00, 0x11d06, ["MASARAM GONDI LETTER:A,AA,I,II,U,UU,E"]⟩,
    ⟨0x11d08, 0x11d09, ["MASARAM GONDI LETTER:AI,O"]⟩,
    ⟨0x11d0b, 0x11d30, ["MASARAM GONDI LETTER:AU,KA,KHA,GA,GHA,NGA,CA,CHA,JA,JHA,NYA,TTA,TTHA,DDA",
      "DDHA,NNA,TA,THA,DA,DHA,NA,PA,PHA,BA,BHA,MA,YA,RA,LA,VA,SHA,SSA,SA,HA,LLA,KSSA,JNYA,TRA"]⟩,
    ⟨0x11d31, 0x11d36, ["MASARAM GONDI VOWEL SIGN:AA,I,II,U,UU,VOCALIC R"]⟩,
    ⟨0x11d3a, 0x11d3a, [":MASARAM GONDI VOWEL SIGN E"]⟩,
    ⟨0x11d3c, 0x11d3d, ["MASARAM GONDI VOWEL SIGN:AI,O"]⟩,
    ⟨0x11d3f, 0x11d47, ["MASARAM GONDI:VOWEL SIGN AU,SIGN ANUSVARA,SIGN VISARGA,SIGN NUKTA",
      "SIGN CANDRA,SIGN HALANTA,VIRAMA,REPHA,RA-KARA"]⟩,
    ⟨0x11d50, 0x11d59, ["MASARAM GONDI DIGIT:ZERO,ONE,TWO,THREE,FOUR,FIVE,SIX,SEVEN,EIGHT,NINE"]⟩,
    ⟨0x11d60, 0x11d65, ["GUNJALA GONDI LETTER:A,AA,I,II,U,UU"]⟩,
    ⟨0x11d67, 0x11d68, ["GUNJALA GONDI LETTER:EE,AI"]⟩,
    ⟨0x11d6a, 0x11d89, ["GUNJALA GONDI LETTER:OO,AU,YA,VA,BA,BHA,MA,KA,KHA,TA,THA,LA,GA,GHA,DA,DHA",
      "NA,CA,CHA,TTA,TTHA,LLA,JA,JHA,DDA,DDHA,NGA,PA,PHA,HA,RA,SA"]⟩,
    ⟨0x11d8a, 0x11d8e, ["GUNJALA GONDI VOWEL SIGN:AA,I,II,U,UU"]⟩,
    ⟨0x11d90, 0x11d91, ["GUNJALA GONDI VOWEL SIGN:EE,AI"]⟩,
    ⟨0x11d93, 0x11d98, ["GUNJALA GONDI:VOWEL SIGN OO,VOWEL SIGN AU,SIGN ANUSVARA,SIGN VISARGA",
      "VIRAMA,OM"]⟩,
    ⟨0x11da0, 0x11da9, ["GUNJALA GONDI DIGIT:ZERO,ONE,TWO,THREE,FOUR,FIVE,SIX,SEVEN,EIGHT,NINE"]⟩,
    ⟨0x11ee0, 0x11ef1, ["MAKASAR LETTER:KA,GA,NGA,PA,BA,MA,TA,DA,NA,CA,JA,NYA,YA,RA,LA,VA,SA,A"]⟩,
    ⟨0x11ef2, 0x11ef8, ["MAKASAR:ANGKA,VOWEL SIGN I,VOWEL SIGN U,VOWEL SIGN E,VOWEL SIGN O",
      "PASSIMBANG,END OF SECTION"]⟩,
    ⟨0x11fb0, 0x11fb0, [":LISU LETTER YHA"]⟩,
    ⟨0x11fc0, 0x11fd4, ["TAMIL FRACTION:ONE THREE-HUNDRED-AND-TWENTIETH",
      "ONE ONE-HUNDRED-AND-SIXTIETH,ONE EIGHTIETH,ONE SIXTY-FOURTH,ONE FORTIETH,ONE THIRTY-SECOND",
      "THREE EIGHTIETHS,THREE SIXTY-FOURTHS,ONE TWENTIETH,ONE SIXTEENTH-1,ONE SIXTEENTH-2",
      "ONE TENTH,ONE EIGHTH,THREE TWENTIETHS,THREE SIXTEENTHS,ONE FIFTH,ONE QUARTER,ONE HALF-1",
      "ONE HALF-2,THREE QUARTERS,DOWNSCALING FACTOR KIIZH"]⟩,
    ⟨0x11fd5, 0x11fe3, ["TAMIL SIGN:NEL,CEVITU,AAZHAAKKU,UZHAKKU,MUUVUZHAKKU,KURUNI,PATHAKKU",
      "MUKKURUNI,KAACU,PANAM,PON,VARAAKAN,PAARAM,KUZHI,VELI"]⟩,
    ⟨0x11fe4, 0x11ff1, ["TAMIL:WET CULTIVATION SIGN,DRY CULTIVATION SIGN,LAND SIGN,SALT PAN SIGN",
      "TRADITIONAL CREDIT SIGN,TRADITIONAL NUMBER SIGN,CURRENT SIGN,AND ODD SIGN,SPENT SIGN",
      "TOTAL SIGN,IN POSSESSION SIGN,STARTING FROM SIGN,SIGN MUTHALIYA,SIGN VAKAIYARAA"]⟩,
    ⟨0x11fff, 0x11fff, [":TAMIL PUNCTUATION END OF TEXT"]⟩]

end CellWidth.Unicode.NameRun
