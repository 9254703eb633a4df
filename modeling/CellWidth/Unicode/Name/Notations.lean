import CellWidth.Unicode.Name.Run

/-!
# Names: notations

The names of characters of kana supplements, notations of music and movement, and mathematical
letters, from U+1AFF0 to U+1EEF1.
-/

namespace CellWidth.Unicode.NameRun

/-- The runs of this part of the code space, in ascending order. -/
def notations : List NameRun :=
  [⟨0x1aff0, 0x1aff3, ["KATAKANA LETTER MINNAN:TONE-2,TONE-3,TONE-4,TONE-5"]⟩,
    ⟨0x1aff5, 0x1affb, ["KATAKANA LETTER MINNAN:TONE-7,TONE-8,NASALIZED TONE-1,NASALIZED TONE-2",
      "NASALIZED TONE-3,NASALIZED TONE-4,NASALIZED TONE-5"]⟩,
    ⟨0x1affd, 0x1affe, ["KATAKANA LETTER MINNAN NASALIZED:TONE-7,TONE-8"]⟩,
    ⟨0x1b000, 0x1b001, [":KATAKANA LETTER ARCHAIC E,HIRAGANA LETTER ARCHAIC YE"]⟩,
    ⟨0x1b002, 0x1b11e, ["HENTAIGANA LETTER:A-1,A-2,A-3,A-WO,I-1,I-2,I-3,I-4,U-1,U-2,U-3,U-4,U-5",
      "E-2,E-3,E-4,E-5,E-6,O-1,O-2,O-3,KA-1,KA-2,KA-3,KA-4,KA-5,KA-6,KA-7,KA-8,KA-9,KA-10,KA-11",
      "KA-KE,KI-1,KI-2,KI-3,KI-4,KI-5,KI-6,KI-7,KI-8,KU-1,KU-2,KU-3,KU-4,KU-5,KU-6,KU-7,KE-1,KE-2",
      "KE-3,KE-4,KE-5,KE-6,KO-1,KO-2,KO-3,KO-KI,SA-1,SA-2,SA-3,SA-4,SA-5,SA-6,SA-7,SA-8,SI-1,SI-2",
      "SI-3,SI-4,SI-5,SI-6,SU-1,SU-2,SU-3,SU-4,SU-5,SU-6,SU-7,SU-8,SE-1,SE-2,SE-3,SE-4,SE-5,SO-1",
      "SO-2,SO-3,SO-4,SO-5,SO-6,SO-7,TA-1,TA-2,TA-3,TA-4,TI-1,TI-2,TI-3,TI-4,TI-5,TI-6,TI-7,TU-1",
      "TU-2,TU-3,TU-4,TU-TO,TE-1,TE-2,TE-3,TE-4,TE-5,TE-6,TE-7,TE-8,TE-9,TO-1,TO-2,TO-3,TO-4,TO-5",
      "TO-6,TO-RA,NA-1,NA-2,NA-3,NA-4,NA-5,NA-6,NA-7,NA-8,NA-9,NI-1,NI-2,NI-3,NI-4,NI-5,NI-6,NI-7",
      "NI-TE,NU-1,NU-2,NU-3,NE-1,NE-2,NE-3,NE-4,NE-5,NE-6,NE-KO,NO-1,NO-2,NO-3,NO-4,NO-5,HA-1,HA-2",
      "HA-3,HA-4,HA-5,HA-6,HA-7,HA-8,HA-9,HA-10,HA-11,HI-1,HI-2,HI-3,HI-4,HI-5,HI-6,HI-7,HU-1,HU-2",
      "HU-3,HE-1,HE-2,HE-3,HE-4,HE-5,HE-6,HE-7,HO-1,HO-2,HO-3,HO-4,HO-5,HO-6,HO-7,HO-8,MA-1,MA-2",
      "MA-3,MA-4,MA-5,MA-6,MA-7,MI-1,MI-2,MI-3,MI-4,MI-5,MI-6,MI-7,MU-1,MU-2,MU-3,MU-4,ME-1,ME-2",
      "ME-MA,MO-1,MO-2,MO-3,MO-4,MO-5,MO-6,YA-1,YA-2,YA-3,YA-4,YA-5,YA-YO,YU-1,YU-2,YU-3,YU-4,YO-1",
      "YO-2,YO-3,YO-4,YO-5,YO-6,RA-1,RA-2,RA-3,RA-4,RI-1,RI-2,RI-3,RI-4,RI-5,RI-6,RI-7,RU-1,RU-2",
      "RU-3,RU-4,RU-5,RU-6,RE-1,RE-2,RE-3,RE-4,RO-1,RO-2,RO-3,RO-4,RO-5,RO-6,WA-1,WA-2,WA-3,WA-4",
      "WA-5,WI-1,WI-2,WI-3,WI-4,WI-5,WE-1,WE-2,WE-3,WE-4,WO-1,WO-2,WO-3,WO-4,WO-5,WO-6,WO-7",
      "N-MU-MO-1,N-MU-MO-2"]⟩,
    ⟨0x1b11f, 0x1b122, [":HIRAGANA LETTER ARCHAIC WU,KATAKANA LETTER ARCHAIC YI",
      "KATAKANA LETTER ARCHAIC YE,KATAKANA LETTER ARCHAIC WU"]⟩,
    ⟨0x1b150, 0x1b152, ["HIRAGANA LETTER SMALL:WI,WE,WO"]⟩,
    ⟨0x1b164, 0x1b167, ["KATAKANA LETTER SMALL:WI,WE,WO,N"]⟩,
    ⟨0x1bc00, 0x1bc6a, ["DUPLOYAN LETTER:H,X,P,T,F,K,L,B,D,V,G,R,P N,D S,F N,K M,R S,TH,SLOAN DH",
      "DH,KK,SLOAN J,HL,LH,RH,M,N,J,S,M N,N M,J M,S J,M WITH DOT,N WITH DOT,J WITH DOT",
      "J WITH DOTS INSIDE AND ABOVE,S WITH DOT,S WITH DOT BELOW,M S,N S,J S,S S,M N S,N M S,J M S",
      "S J S,J S WITH DOT,J N,J N S,S T,S T R,S P,S P R,T S,T R S,W,WH,W R,S N,S M,K R S,G R S,S K",
      "S K R,A,SLOAN OW,OA,O,AOU,I,E,IE,SHORT I,UI,EE,SLOAN EH,ROMANIAN I,SLOAN EE,LONG I,YE,U,EU",
      "XW,U N,LONG U,ROMANIAN U,UH,SLOAN U,OOH,OW,OU,WA,WO,WI,WEI,WOW,NASAL U,NASAL O,NASAL I",
      "NASAL A,PERNIN AN,PERNIN AM,SLOAN EN,SLOAN AN,SLOAN ON,VOCALIC M"]⟩,
    ⟨0x1bc70, 0x1bc7c, ["DUPLOYAN AFFIX:LEFT HORIZONTAL SECANT,MID HORIZONTAL SECANT",
      "RIGHT HORIZONTAL SECANT,LOW VERTICAL SECANT,MID VERTICAL SECANT,HIGH VERTICAL SECANT",
      "ATTACHED SECANT,ATTACHED LEFT-TO-RIGHT SECANT,ATTACHED TANGENT,ATTACHED TAIL",
      "ATTACHED E HOOK,ATTACHED I HOOK,ATTACHED TANGENT HOOK"]⟩,
    ⟨0x1bc80, 0x1bc88, ["DUPLOYAN AFFIX HIGH:ACUTE,TIGHT ACUTE,GRAVE,LONG GRAVE,DOT,CIRCLE,LINE",
      "WAVE,VERTICAL"]⟩,
    ⟨0x1bc90, 0x1bc99, ["DUPLOYAN AFFIX LOW:ACUTE,TIGHT ACUTE,GRAVE,LONG GRAVE,DOT,CIRCLE,LINE",
      "WAVE,VERTICAL,ARROW"]⟩,
    ⟨0x1bc9c, 0x1bc9f, ["DUPLOYAN:SIGN O WITH CROSS,THICK LETTER SELECTOR,DOUBLE MARK",
      "PUNCTUATION CHINOOK FULL STOP"]⟩,
    ⟨0x1bca0, 0x1bca3, ["SHORTHAND FORMAT:LETTER OVERLAP,CONTINUING OVERLAP,DOWN STEP,UP STEP"]⟩,
    ⟨0x1cf00, 0x1cf2d, ["ZNAMENNY COMBINING MARK:GORAZDO NIZKO S KRYZHEM ON LEFT",
      "NIZKO S KRYZHEM ON LEFT,TSATA ON LEFT,GORAZDO NIZKO ON LEFT,NIZKO ON LEFT,SREDNE ON LEFT",
      "MALO POVYSHE ON LEFT,POVYSHE ON LEFT,VYSOKO ON LEFT,MALO POVYSHE S KHOKHLOM ON LEFT",
      "POVYSHE S KHOKHLOM ON LEFT,VYSOKO S KHOKHLOM ON LEFT,GORAZDO NIZKO S KRYZHEM ON RIGHT",
      "NIZKO S KRYZHEM ON RIGHT,TSATA ON RIGHT,GORAZDO NIZKO ON RIGHT,NIZKO ON RIGHT",
      "SREDNE ON RIGHT,MALO POVYSHE ON RIGHT,POVYSHE ON RIGHT,VYSOKO ON RIGHT",
      "MALO POVYSHE S KHOKHLOM ON RIGHT,POVYSHE S KHOKHLOM ON RIGHT,VYSOKO S KHOKHLOM ON RIGHT",
      "TSATA S KRYZHEM,MALO POVYSHE S KRYZHEM,STRANNO MALO POVYSHE,POVYSHE S KRYZHEM",
      "POVYSHE STRANNO,VYSOKO S KRYZHEM,MALO POVYSHE STRANNO,GORAZDO VYSOKO,ZELO,ON,RAVNO,TIKHAYA",
      "BORZAYA,UDARKA,PODVERTKA,LOMKA,KUPNAYA,KACHKA,ZEVOK,SKOBA,RAZSEKA,KRYZH ON LEFT"]⟩,
    ⟨0x1cf30, 0x1cf41, ["ZNAMENNY COMBINING:TONAL RANGE MARK MRACHNO,TONAL RANGE MARK SVETLO",
      "TONAL RANGE MARK TRESVETLO,MARK ZADERZHKA,MARK DEMESTVENNY ZADERZHKA,MARK OTSECHKA",
      "MARK PODCHASHIE,MARK PODCHASHIE WITH VERTICAL STROKE,MARK CHASHKA,MARK CHASHKA POLNAYA",
      "MARK OBLACHKO,MARK SOROCHYA NOZHKA,MARK TOCHKA,MARK DVOETOCHIE,ATTACHING VERTICAL OMET",
      "MARK CURVED OMET,MARK KRYZH,LOWER TONAL RANGE INDICATOR"]⟩,
    ⟨0x1cf42, 0x1cf46, ["ZNAMENNY PRIZNAK MODIFIER:LEVEL-2,LEVEL-3,DIRECTION FLIP,KRYZH,ROG"]⟩,
    ⟨0x1cf50, 0x1cfc3, ["ZNAMENNY NEUME:KRYUK,KRYUK TIKHY,PARAKLIT,DVA V CHELNU,KLYUCH,ZANOZHEK",
      "STOPITSA,STOPITSA S OCHKOM,PEREVODKA,PEREVODKA NEPOSTOYANNAYA,STOPITSA WITH SOROCHYA NOZHKA",
      "CHELYUSTKA,PALKA,ZAPYATAYA,GOLUBCHIK BORZY,GOLUBCHIK TIKHY,GOLUBCHIK MRACHNY",
      "GOLUBCHIK SVETLY,GOLUBCHIK TRESVETLY,VRAKHIYA PROSTAYA,VRAKHIYA MRACHNAYA,VRAKHIYA SVETLAYA",
      "VRAKHIYA TRESVETLAYA,VRAKHIYA KLYUCHEVAYA PROSTAYA,VRAKHIYA KLYUCHEVAYA MRACHNAYA",
      "VRAKHIYA KLYUCHEVAYA SVETLAYA,VRAKHIYA KLYUCHEVAYA TRESVETLAYA,DOUBLE ZAPYATAYA",
      "REVERSED CHELYUSTKA,DERBITSA,KHAMILO,CHASHKA,PODCHASHIE,SKAMEYTSA MRACHNAYA",
      "SKAMEYTSA SVETLAYA,SKAMEYTSA TRESVETLAYA,SKAMEYTSA TIKHAYA,DEMESTVENNY KLYUCH",
      "SKAMEYTSA KLYUCHEVAYA SVETLAYA,SKAMEYTSA KLYUCHENEPOSTOYANNAYA",
      "SKAMEYTSA KLYUCHEVAYA TIKHAYA,SKAMEYTSA DVOECHELNAYA PROSTAYA",
      "SKAMEYTSA DVOECHELNAYA SVETLAYA,SKAMEYTSA DVOECHELNAYA NEPOSTOYANNAYA",
      "SKAMEYTSA DVOECHELNAYA KLYUCHEVAYA,SLOZHITIE,SLOZHITIE S ZAPYATOY,SLOZHITIE ZAKRYTOE",
      "SLOZHITIE S KRYZHEM,KRYZH,ROG,FITA,KOBYLA,ZMEYTSA,STATYA,STATYA S ZAPYATOY,STATYA S KRYZHEM",
      "STATYA S ZAPYATOY I KRYZHEM,STATYA S KRYZHEM I ZAPYATOY,STATYA ZAKRYTAYA",
      "STATYA ZAKRYTAYA S ZAPYATOY,STATYA S ROGOM,STATYA S DVUMYA ZAPYATYMI",
      "STATYA S ZAPYATOY I PODCHASHIEM,POLKULIZMY,STATYA NEPOSTOYANNAYA,STRELA PROSTAYA",
      "STRELA MRACHNOTIKHAYA,STRELA KRYZHEVAYA,STRELA POLUPOVODNAYA,STRELA POVODNAYA",
      "STRELA NEPOSTOYANNAYA,STRELA KLYUCHEPOVODNAYA,STRELA KLYUCHENEPOSTOYANNAYA",
      "STRELA TIKHAYA PUTNAYA,STRELA DVOECHELNAYA,STRELA DVOECHELNOKRYZHEVAYA",
      "STRELA DVOECHELNOPOVODNAYA,STRELA DVOECHELNAYA KLYUCHEVAYA",
      "STRELA DVOECHELNOPOVODNAYA KLYUCHEVAYA,STRELA GROMNAYA WITH SINGLE ZAPYATAYA",
      "STRELA GROMOPOVODNAYA WITH SINGLE ZAPYATAYA,STRELA GROMNAYA,STRELA GROMOPOVODNAYA",
      "STRELA GROMOPOVODNAYA WITH DOUBLE ZAPYATAYA,STRELA GROMOKRYZHEVAYA",
      "STRELA GROMOKRYZHEVAYA POVODNAYA,MECHIK,MECHIK POVODNY,MECHIK KLYUCHEVOY",
      "MECHIK KLYUCHEPOVODNY,MECHIK KLYUCHENEPOSTOYANNY,STRELA TRYASOGLASNAYA",
      "STRELA TRYASOPOVODNAYA,STRELA TRYASOSTRELNAYA,OSOKA,OSOKA SVETLAYA,OSOKA TRESVETLAYA",
      "OSOKA KRYUKOVAYA SVETLAYA,OSOKA KLYUCHEVAYA SVETLAYA,OSOKA KLYUCHEVAYA NEPOSTOYANNAYA",
      "STRELA KRYUKOVAYA,STRELA KRYUKOVAYA POVODNAYA",
      "STRELA KRYUKOVAYA GROMNAYA WITH SINGLE ZAPYATAYA",
      "STRELA KRYUKOVAYA GROMOPOVODNAYA WITH SINGLE ZAPYATAYA,STRELA KRYUKOVAYA GROMNAYA",
      "STRELA KRYUKOVAYA GROMOPOVODNAYA,STRELA KRYUKOVAYA GROMOPOVODNAYA WITH DOUBLE ZAPYATAYA",
      "STRELA KRYUKOVAYA GROMOKRYZHEVAYA,STRELA KRYUKOVAYA GROMOKRYZHEVAYA POVODNAYA",
      "STRELA KRYUKOVAYA TRYASKA,KUFISMA,OBLAKO,DUDA,NEMKA,PAUK"]⟩,
    ⟨0x1d000, 0x1d0f5, ["BYZANTINE MUSICAL SYMBOL:PSILI,DASEIA,PERISPOMENI,OXEIA EKFONITIKON",
      "OXEIA DIPLI,VAREIA EKFONITIKON,VAREIA DIPLI,KATHISTI,SYRMATIKI,PARAKLITIKI,YPOKRISIS",
      "YPOKRISIS DIPLI,KREMASTI,APESO EKFONITIKON,EXO EKFONITIKON,TELEIA,KENTIMATA,APOSTROFOS",
      "APOSTROFOS DIPLI,SYNEVMA,THITA,OLIGON ARCHAION,GORGON ARCHAION,PSILON,CHAMILON,VATHY",
      "ISON ARCHAION,KENTIMA ARCHAION,KENTIMATA ARCHAION,SAXIMATA,PARICHON,STAVROS APODEXIA",
      "OXEIAI ARCHAION,VAREIAI ARCHAION,APODERMA ARCHAION,APOTHEMA,KLASMA,REVMA,PIASMA ARCHAION",
      "TINAGMA,ANATRICHISMA,SEISMA,SYNAGMA ARCHAION,SYNAGMA META STAVROU,OYRANISMA ARCHAION,THEMA",
      "LEMOI,DYO,TRIA,TESSERA,KRATIMATA,APESO EXO NEO,FTHORA ARCHAION,IMIFTHORA,TROMIKON ARCHAION",
      "KATAVA TROMIKON,PELASTON,PSIFISTON,KONTEVMA,CHOREVMA ARCHAION,RAPISMA,PARAKALESMA ARCHAION",
      "PARAKLITIKI ARCHAION,ICHADIN,NANA,PETASMA,KONTEVMA ALLO,TROMIKON ALLO,STRAGGISMATA",
      "GRONTHISMATA,ISON NEO,OLIGON NEO,OXEIA NEO,PETASTI,KOUFISMA,PETASTOKOUFISMA,KRATIMOKOUFISMA",
      "PELASTON NEO,KENTIMATA NEO ANO,KENTIMA NEO ANO,YPSILI,APOSTROFOS NEO",
      "APOSTROFOI SYNDESMOS NEO,YPORROI,KRATIMOYPORROON,ELAFRON,CHAMILI,MIKRON ISON,VAREIA NEO",
      "PIASMA NEO,PSIFISTON NEO,OMALON,ANTIKENOMA,LYGISMA,PARAKLITIKI NEO,PARAKALESMA NEO",
      "ETERON PARAKALESMA,KYLISMA,ANTIKENOKYLISMA,TROMIKON NEO,EKSTREPTON,SYNAGMA NEO,SYRMA",
      "CHOREVMA NEO,EPEGERMA,SEISMA NEO,XIRON KLASMA,TROMIKOPSIFISTON,PSIFISTOLYGISMA",
      "TROMIKOLYGISMA,TROMIKOPARAKALESMA,PSIFISTOPARAKALESMA,TROMIKOSYNAGMA,PSIFISTOSYNAGMA",
      "GORGOSYNTHETON,ARGOSYNTHETON,ETERON ARGOSYNTHETON,OYRANISMA NEO,THEMATISMOS ESO",
      "THEMATISMOS EXO,THEMA APLOUN,THES KAI APOTHES,KATAVASMA,ENDOFONON,YFEN KATO,YFEN ANO",
      "STAVROS,KLASMA ANO,DIPLI ARCHAION,KRATIMA ARCHAION,KRATIMA ALLO,KRATIMA NEO,APODERMA NEO",
      "APLI,DIPLI,TRIPLI,TETRAPLI,KORONIS,LEIMMA ENOS CHRONOU,LEIMMA DYO CHRONON",
      "LEIMMA TRION CHRONON,LEIMMA TESSARON CHRONON,LEIMMA IMISEOS CHRONOU,GORGON NEO ANO",
      "GORGON PARESTIGMENON ARISTERA,GORGON PARESTIGMENON DEXIA,DIGORGON",
      "DIGORGON PARESTIGMENON ARISTERA KATO,DIGORGON PARESTIGMENON ARISTERA ANO",
      "DIGORGON PARESTIGMENON DEXIA,TRIGORGON,ARGON,IMIDIARGON,DIARGON,AGOGI POLI ARGI",
      "AGOGI ARGOTERI,AGOGI ARGI,AGOGI METRIA,AGOGI MESI,AGOGI GORGI,AGOGI GORGOTERI",
      "AGOGI POLI GORGI,MARTYRIA PROTOS ICHOS,MARTYRIA ALLI PROTOS ICHOS,MARTYRIA DEYTEROS ICHOS",
      "MARTYRIA ALLI DEYTEROS ICHOS,MARTYRIA TRITOS ICHOS,MARTYRIA TRIFONIAS",
      "MARTYRIA TETARTOS ICHOS,MARTYRIA TETARTOS LEGETOS ICHOS,MARTYRIA LEGETOS ICHOS",
      "MARTYRIA PLAGIOS ICHOS,ISAKIA TELOUS ICHIMATOS,APOSTROFOI TELOUS ICHIMATOS",
      "FANEROSIS TETRAFONIAS,FANEROSIS MONOFONIAS,FANEROSIS DIFONIAS,MARTYRIA VARYS ICHOS",
      "MARTYRIA PROTOVARYS ICHOS,MARTYRIA PLAGIOS TETARTOS ICHOS,GORTHMIKON N APLOUN",
      "GORTHMIKON N DIPLOUN,ENARXIS KAI FTHORA VOU,IMIFONON,IMIFTHORON",
      "FTHORA ARCHAION DEYTEROU ICHOU,FTHORA DIATONIKI PA,FTHORA DIATONIKI NANA,FTHORA NAOS ICHOS",
      "FTHORA DIATONIKI DI,FTHORA SKLIRON DIATONON DI,FTHORA DIATONIKI KE,FTHORA DIATONIKI ZO",
      "FTHORA DIATONIKI NI KATO,FTHORA DIATONIKI NI ANO,FTHORA MALAKON CHROMA DIFONIAS",
      "FTHORA MALAKON CHROMA MONOFONIAS,FHTORA SKLIRON CHROMA VASIS,FTHORA SKLIRON CHROMA SYNAFI",
      "FTHORA NENANO,CHROA ZYGOS,CHROA KLITON,CHROA SPATHI,FTHORA I YFESIS TETARTIMORION",
      "FTHORA ENARMONIOS ANTIFONIA,YFESIS TRITIMORION,DIESIS TRITIMORION,DIESIS TETARTIMORION",
      "DIESIS APLI DYO DODEKATA,DIESIS MONOGRAMMOS TESSERA DODEKATA,DIESIS DIGRAMMOS EX DODEKATA",
      "DIESIS TRIGRAMMOS OKTO DODEKATA,YFESIS APLI DYO DODEKATA",
      "YFESIS MONOGRAMMOS TESSERA DODEKATA,YFESIS DIGRAMMOS EX DODEKATA",
      "YFESIS TRIGRAMMOS OKTO DODEKATA,GENIKI DIESIS,GENIKI YFESIS,DIASTOLI APLI MIKRI",
      "DIASTOLI APLI MEGALI,DIASTOLI DIPLI,DIASTOLI THESEOS,SIMANSIS THESEOS",
      "SIMANSIS THESEOS DISIMOU,SIMANSIS THESEOS TRISIMOU,SIMANSIS THESEOS TETRASIMOU",
      "SIMANSIS ARSEOS,SIMANSIS ARSEOS DISIMOU,SIMANSIS ARSEOS TRISIMOU,SIMANSIS ARSEOS TETRASIMOU",
      "DIGRAMMA GG,DIFTOGGOS OU,STIGMA,ARKTIKO PA,ARKTIKO VOU,ARKTIKO GA,ARKTIKO DI,ARKTIKO KE",
      "ARKTIKO ZO,ARKTIKO NI,KENTIMATA NEO MESO,KENTIMA NEO MESO,KENTIMATA NEO KATO",
      "KENTIMA NEO KATO,KLASMA KATO,GORGON NEO KATO"]⟩,
    ⟨0x1d100, 0x1d126, ["MUSICAL SYMBOL:SINGLE BARLINE,DOUBLE BARLINE,FINAL BARLINE",
      "REVERSE FINAL BARLINE,DASHED BARLINE,SHORT BARLINE,LEFT REPEAT SIGN,RIGHT REPEAT SIGN",
      "REPEAT DOTS,DAL SEGNO,DA CAPO,SEGNO,CODA,REPEATED FIGURE-1,REPEATED FIGURE-2",
      "REPEATED FIGURE-3,FERMATA,FERMATA BELOW,BREATH MARK,CAESURA,BRACE,BRACKET,ONE-LINE STAFF",
      "TWO-LINE STAFF,THREE-LINE STAFF,FOUR-LINE STAFF,FIVE-LINE STAFF,SIX-LINE STAFF",
      "SIX-STRING FRETBOARD,FOUR-STRING FRETBOARD,G CLEF,G CLEF OTTAVA ALTA,G CLEF OTTAVA BASSA",
      "C CLEF,F CLEF,F CLEF OTTAVA ALTA,F CLEF OTTAVA BASSA,DRUM CLEF-1,DRUM CLEF-2"]⟩,
    ⟨0x1d129, 0x1d147, ["MUSICAL SYMBOL:MULTIPLE MEASURE REST,DOUBLE SHARP,DOUBLE FLAT,FLAT UP",
      "FLAT DOWN,NATURAL UP,NATURAL DOWN,SHARP UP,SHARP DOWN,QUARTER TONE SHARP,QUARTER TONE FLAT",
      "COMMON TIME,CUT TIME,OTTAVA ALTA,OTTAVA BASSA,QUINDICESIMA ALTA,QUINDICESIMA BASSA",
      "MULTI REST,WHOLE REST,HALF REST,QUARTER REST,EIGHTH REST,SIXTEENTH REST,THIRTY-SECOND REST",
      "SIXTY-FOURTH REST,ONE HUNDRED TWENTY-EIGHTH REST,X NOTEHEAD,PLUS NOTEHEAD,CIRCLE X NOTEHEAD",
      "SQUARE NOTEHEAD WHITE,SQUARE NOTEHEAD BLACK"]⟩,
    ⟨0x1d148, 0x1d151, ["MUSICAL SYMBOL TRIANGLE NOTEHEAD:UP WHITE,UP BLACK,LEFT WHITE,LEFT BLACK",
      "RIGHT WHITE,RIGHT BLACK,DOWN WHITE,DOWN BLACK,UP RIGHT WHITE,UP RIGHT BLACK"]⟩,
    ⟨0x1d152, 0x1d1ea, ["MUSICAL SYMBOL:MOON NOTEHEAD WHITE,MOON NOTEHEAD BLACK",
      "TRIANGLE-ROUND NOTEHEAD DOWN WHITE,TRIANGLE-ROUND NOTEHEAD DOWN BLACK,PARENTHESIS NOTEHEAD",
      "VOID NOTEHEAD,NOTEHEAD BLACK,NULL NOTEHEAD,CLUSTER NOTEHEAD WHITE,CLUSTER NOTEHEAD BLACK",
      "BREVE,WHOLE NOTE,HALF NOTE,QUARTER NOTE,EIGHTH NOTE,SIXTEENTH NOTE,THIRTY-SECOND NOTE",
      "SIXTY-FOURTH NOTE,ONE HUNDRED TWENTY-EIGHTH NOTE,COMBINING STEM,COMBINING SPRECHGESANG STEM",
      "COMBINING TREMOLO-1,COMBINING TREMOLO-2,COMBINING TREMOLO-3,FINGERED TREMOLO-1",
      "FINGERED TREMOLO-2,FINGERED TREMOLO-3,COMBINING AUGMENTATION DOT,COMBINING FLAG-1",
      "COMBINING FLAG-2,COMBINING FLAG-3,COMBINING FLAG-4,COMBINING FLAG-5,BEGIN BEAM,END BEAM",
      "BEGIN TIE,END TIE,BEGIN SLUR,END SLUR,BEGIN PHRASE,END PHRASE,COMBINING ACCENT",
      "COMBINING STACCATO,COMBINING TENUTO,COMBINING STACCATISSIMO,COMBINING MARCATO",
      "COMBINING MARCATO-STACCATO,COMBINING ACCENT-STACCATO,COMBINING LOURE,ARPEGGIATO UP",
      "ARPEGGIATO DOWN,COMBINING DOIT,COMBINING RIP,COMBINING FLIP,COMBINING SMEAR,COMBINING BEND",
      "COMBINING DOUBLE TONGUE,COMBINING TRIPLE TONGUE,RINFORZANDO,SUBITO,Z,PIANO,MEZZO,FORTE",
      "CRESCENDO,DECRESCENDO,GRACE NOTE SLASH,GRACE NOTE NO SLASH,TR,TURN,INVERTED TURN,TURN SLASH",
      "TURN UP,ORNAMENT STROKE-1,ORNAMENT STROKE-2,ORNAMENT STROKE-3,ORNAMENT STROKE-4",
      "ORNAMENT STROKE-5,ORNAMENT STROKE-6,ORNAMENT STROKE-7,ORNAMENT STROKE-8,ORNAMENT STROKE-9",
      "ORNAMENT STROKE-10,ORNAMENT STROKE-11,HAUPTSTIMME,NEBENSTIMME,END OF STIMME,DEGREE SLASH",
      "COMBINING DOWN BOW,COMBINING UP BOW,COMBINING HARMONIC,COMBINING SNAP PIZZICATO,PEDAL MARK",
      "PEDAL UP MARK,HALF PEDAL MARK,GLISSANDO UP,GLISSANDO DOWN,WITH FINGERNAILS,DAMP,DAMP ALL",
      "MAXIMA,LONGA,BREVIS,SEMIBREVIS WHITE,SEMIBREVIS BLACK,MINIMA,MINIMA BLACK,SEMIMINIMA WHITE",
      "SEMIMINIMA BLACK,FUSA WHITE,FUSA BLACK,LONGA PERFECTA REST,LONGA IMPERFECTA REST",
      "BREVIS REST,SEMIBREVIS REST,MINIMA REST,SEMIMINIMA REST",
      "TEMPUS PERFECTUM CUM PROLATIONE PERFECTA,TEMPUS PERFECTUM CUM PROLATIONE IMPERFECTA",
      "TEMPUS PERFECTUM CUM PROLATIONE PERFECTA DIMINUTION-1",
      "TEMPUS IMPERFECTUM CUM PROLATIONE PERFECTA,TEMPUS IMPERFECTUM CUM PROLATIONE IMPERFECTA",
      "TEMPUS IMPERFECTUM CUM PROLATIONE IMPERFECTA DIMINUTION-1",
      "TEMPUS IMPERFECTUM CUM PROLATIONE IMPERFECTA DIMINUTION-2",
      "TEMPUS IMPERFECTUM CUM PROLATIONE IMPERFECTA DIMINUTION-3,CROIX,GREGORIAN C CLEF",
      "GREGORIAN F CLEF,SQUARE B,VIRGA,PODATUS,CLIVIS,SCANDICUS,CLIMACUS,TORCULUS,PORRECTUS",
      "PORRECTUS FLEXUS,SCANDICUS FLEXUS,TORCULUS RESUPINUS,PES SUBPUNCTIS,KIEVAN C CLEF",
      "KIEVAN END OF PIECE,KIEVAN FINAL NOTE,KIEVAN RECITATIVE MARK,KIEVAN WHOLE NOTE",
      "KIEVAN HALF NOTE,KIEVAN QUARTER NOTE STEM DOWN,KIEVAN QUARTER NOTE STEM UP",
      "KIEVAN EIGHTH NOTE STEM DOWN,KIEVAN EIGHTH NOTE STEM UP,KIEVAN FLAT SIGN,SORI,KORON"]⟩,
    ⟨0x1d200, 0x1d21c, ["GREEK VOCAL NOTATION:SYMBOL-1,SYMBOL-2,SYMBOL-3,SYMBOL-4,SYMBOL-5",
      "SYMBOL-6,SYMBOL-7,SYMBOL-8,SYMBOL-9,SYMBOL-10,SYMBOL-11,SYMBOL-12,SYMBOL-13,SYMBOL-14",
      "SYMBOL-15,SYMBOL-16,SYMBOL-17,SYMBOL-18,SYMBOL-19,SYMBOL-20,SYMBOL-21,SYMBOL-22,SYMBOL-23",
      "SYMBOL-24,SYMBOL-50,SYMBOL-51,SYMBOL-52,SYMBOL-53,SYMBOL-54"]⟩,
    ⟨0x1d21d, 0x1d241, ["GREEK INSTRUMENTAL NOTATION:SYMBOL-1,SYMBOL-2,SYMBOL-4,SYMBOL-5,SYMBOL-7",
      "SYMBOL-8,SYMBOL-11,SYMBOL-12,SYMBOL-13,SYMBOL-14,SYMBOL-17,SYMBOL-18,SYMBOL-19,SYMBOL-23",
      "SYMBOL-24,SYMBOL-25,SYMBOL-26,SYMBOL-27,SYMBOL-29,SYMBOL-30,SYMBOL-32,SYMBOL-36,SYMBOL-37",
      "SYMBOL-38,SYMBOL-39,SYMBOL-40,SYMBOL-42,SYMBOL-43,SYMBOL-45,SYMBOL-47,SYMBOL-48,SYMBOL-49",
      "SYMBOL-50,SYMBOL-51,SYMBOL-52,SYMBOL-53,SYMBOL-54"]⟩,
    ⟨0x1d242, 0x1d245, [":COMBINING GREEK MUSICAL TRISEME,COMBINING GREEK MUSICAL TETRASEME",
      "COMBINING GREEK MUSICAL PENTASEME,GREEK MUSICAL LEIMMA"]⟩,
    ⟨0x1d2e0, 0x1d2f3, ["MAYAN NUMERAL:ZERO,ONE,TWO,THREE,FOUR,FIVE,SIX,SEVEN,EIGHT,NINE,TEN",
      "ELEVEN,TWELVE,THIRTEEN,FOURTEEN,FIFTEEN,SIXTEEN,SEVENTEEN,EIGHTEEN,NINETEEN"]⟩,
    ⟨0x1d300, 0x1d305, [":MONOGRAM FOR EARTH,DIGRAM FOR HEAVENLY EARTH,DIGRAM FOR HUMAN EARTH",
      "DIGRAM FOR EARTHLY HEAVEN,DIGRAM FOR EARTHLY HUMAN,DIGRAM FOR EARTH"]⟩,
    ⟨0x1d306, 0x1d356, ["TETRAGRAM FOR:CENTRE,FULL CIRCLE,MIRED,BARRIER,KEEPING SMALL,CONTRARIETY",
      "ASCENT,OPPOSITION,BRANCHING OUT,DEFECTIVENESS OR DISTORTION,DIVERGENCE,YOUTHFULNESS",
      "INCREASE,PENETRATION,REACH,CONTACT,HOLDING BACK,WAITING,FOLLOWING,ADVANCE,RELEASE",
      "RESISTANCE,EASE,JOY,CONTENTION,ENDEAVOUR,DUTIES,CHANGE,DECISIVENESS,BOLD RESOLUTION,PACKING",
      "LEGION,CLOSENESS,KINSHIP,GATHERING,STRENGTH,PURITY,FULLNESS,RESIDENCE,LAW OR MODEL,RESPONSE",
      "GOING TO MEET,ENCOUNTERS,STOVE,GREATNESS,ENLARGEMENT,PATTERN,RITUAL,FLIGHT",
      "VASTNESS OR WASTING,CONSTANCY,MEASURE,ETERNITY,UNITY,DIMINISHMENT,CLOSED MOUTH,GUARDEDNESS",
      "GATHERING IN,MASSING,ACCUMULATION,EMBELLISHMENT,DOUBT,WATCH,SINKING,INNER,DEPARTURE",
      "DARKENING,DIMMING,EXHAUSTION,SEVERANCE,STOPPAGE,HARDNESS,COMPLETION,CLOSURE,FAILURE",
      "AGGRAVATION,COMPLIANCE,ON THE VERGE,DIFFICULTIES,LABOURING,FOSTERING"]⟩,
    ⟨0x1d360, 0x1d368, ["COUNTING ROD UNIT DIGIT:ONE,TWO,THREE,FOUR,FIVE,SIX,SEVEN,EIGHT,NINE"]⟩,
    ⟨0x1d369, 0x1d371, ["COUNTING ROD TENS DIGIT:ONE,TWO,THREE,FOUR,FIVE,SIX,SEVEN,EIGHT,NINE"]⟩,
    ⟨0x1d372, 0x1d376, ["IDEOGRAPHIC TALLY MARK:ONE,TWO,THREE,FOUR,FIVE"]⟩,
    ⟨0x1d377, 0x1d378, ["TALLY MARK:ONE,FIVE"]⟩,
    ⟨0x1d400, 0x1d419, ["MATHEMATICAL BOLD CAPITAL:A,B,C,D,E,F,G,H,I,J,K,L,M,N,O,P,Q,R,S,T,U,V,W,X",
      "Y,Z"]⟩,
    ⟨0x1d41a, 0x1d433, ["MATHEMATICAL BOLD SMALL:A,B,C,D,E,F,G,H,I,J,K,L,M,N,O,P,Q,R,S,T,U,V,W,X,Y",
      "Z"]⟩,
    ⟨0x1d434, 0x1d44d, ["MATHEMATICAL ITALIC CAPITAL:A,B,C,D,E,F,G,H,I,J,K,L,M,N,O,P,Q,R,S,T,U,V,W",
      "X,Y,Z"]⟩,
    ⟨0x1d44e, 0x1d454, ["MATHEMATICAL ITALIC SMALL:A,B,C,D,E,F,G"]⟩,
    ⟨0x1d456, 0x1d467, ["MATHEMATICAL ITALIC SMALL:I,J,K,L,M,N,O,P,Q,R,S,T,U,V,W,X,Y,Z"]⟩,
    ⟨0x1d468, 0x1d481, ["MATHEMATICAL BOLD ITALIC CAPITAL:A,B,C,D,E,F,G,H,I,J,K,L,M,N,O,P,Q,R,S,T",
      "U,V,W,X,Y,Z"]⟩,
    ⟨0x1d482, 0x1d49b, ["MATHEMATICAL BOLD ITALIC SMALL:A,B,C,D,E,F,G,H,I,J,K,L,M,N,O,P,Q,R,S,T,U",
      "V,W,X,Y,Z"]⟩,
    ⟨0x1d49c, 0x1d49c, [":MATHEMATICAL SCRIPT CAPITAL A"]⟩,
    ⟨0x1d49e, 0x1d49f, ["MATHEMATICAL SCRIPT CAPITAL:C,D"]⟩,
    ⟨0x1d4a2, 0x1d4a2, [":MATHEMATICAL SCRIPT CAPITAL G"]⟩,
    ⟨0x1d4a5, 0x1d4a6, ["MATHEMATICAL SCRIPT CAPITAL:J,K"]⟩,
    ⟨0x1d4a9, 0x1d4ac, ["MATHEMATICAL SCRIPT CAPITAL:N,O,P,Q"]⟩,
    ⟨0x1d4ae, 0x1d4b9, ["MATHEMATICAL SCRIPT:CAPITAL S,CAPITAL T,CAPITAL U,CAPITAL V,CAPITAL W",
      "CAPITAL X,CAPITAL Y,CAPITAL Z,SMALL A,SMALL B,SMALL C,SMALL D"]⟩,
    ⟨0x1d4bb, 0x1d4bb, [":MATHEMATICAL SCRIPT SMALL F"]⟩,
    ⟨0x1d4bd, 0x1d4c3, ["MATHEMATICAL SCRIPT SMALL:H,I,J,K,L,M,N"]⟩,
    ⟨0x1d4c5, 0x1d4cf, ["MATHEMATICAL SCRIPT SMALL:P,Q,R,S,T,U,V,W,X,Y,Z"]⟩,
    ⟨0x1d4d0, 0x1d4e9, ["MATHEMATICAL BOLD SCRIPT CAPITAL:A,B,C,D,E,F,G,H,I,J,K,L,M,N,O,P,Q,R,S,T",
      "U,V,W,X,Y,Z"]⟩,
    ⟨0x1d4ea, 0x1d503, ["MATHEMATICAL BOLD SCRIPT SMALL:A,B,C,D,E,F,G,H,I,J,K,L,M,N,O,P,Q,R,S,T,U",
      "V,W,X,Y,Z"]⟩,
    ⟨0x1d504, 0x1d505, ["MATHEMATICAL FRAKTUR CAPITAL:A,B"]⟩,
    ⟨0x1d507, 0x1d50a, ["MATHEMATICAL FRAKTUR CAPITAL:D,E,F,G"]⟩,
    ⟨0x1d50d, 0x1d514, ["MATHEMATICAL FRAKTUR CAPITAL:J,K,L,M,N,O,P,Q"]⟩,
    ⟨0x1d516, 0x1d51c, ["MATHEMATICAL FRAKTUR CAPITAL:S,T,U,V,W,X,Y"]⟩,
    ⟨0x1d51e, 0x1d537, ["MATHEMATICAL FRAKTUR SMALL:A,B,C,D,E,F,G,H,I,J,K,L,M,N,O,P,Q,R,S,T,U,V,W",
      "X,Y,Z"]⟩,
    ⟨0x1d538, 0x1d539, ["MATHEMATICAL DOUBLE-STRUCK CAPITAL:A,B"]⟩,
    ⟨0x1d53b, 0x1d53e, ["MATHEMATICAL DOUBLE-STRUCK CAPITAL:D,E,F,G"]⟩,
    ⟨0x1d540, 0x1d544, ["MATHEMATICAL DOUBLE-STRUCK CAPITAL:I,J,K,L,M"]⟩,
    ⟨0x1d546, 0x1d546, [":MATHEMATICAL DOUBLE-STRUCK CAPITAL O"]⟩,
    ⟨0x1d54a, 0x1d550, ["MATHEMATICAL DOUBLE-STRUCK CAPITAL:S,T,U,V,W,X,Y"]⟩,
    ⟨0x1d552, 0x1d56b, ["MATHEMATICAL DOUBLE-STRUCK SMALL:A,B,C,D,E,F,G,H,I,J,K,L,M,N,O,P,Q,R,S,T",
      "U,V,W,X,Y,Z"]⟩,
    ⟨0x1d56c, 0x1d585, ["MATHEMATICAL BOLD FRAKTUR CAPITAL:A,B,C,D,E,F,G,H,I,J,K,L,M,N,O,P,Q,R,S,T",
      "U,V,W,X,Y,Z"]⟩,
    ⟨0x1d586, 0x1d59f, ["MATHEMATICAL BOLD FRAKTUR SMALL:A,B,C,D,E,F,G,H,I,J,K,L,M,N,O,P,Q,R,S,T,U",
      "V,W,X,Y,Z"]⟩,
    ⟨0x1d5a0, 0x1d5b9, ["MATHEMATICAL SANS-SERIF CAPITAL:A,B,C,D,E,F,G,H,I,J,K,L,M,N,O,P,Q,R,S,T,U",
      "V,W,X,Y,Z"]⟩,
    ⟨0x1d5ba, 0x1d5d3, ["MATHEMATICAL SANS-SERIF SMALL:A,B,C,D,E,F,G,H,I,J,K,L,M,N,O,P,Q,R,S,T,U,V",
      "W,X,Y,Z"]⟩,
    ⟨0x1d5d4, 0x1d5ed, ["MATHEMATICAL SANS-SERIF BOLD CAPITAL:A,B,C,D,E,F,G,H,I,J,K,L,M,N,O,P,Q,R",
      "S,T,U,V,W,X,Y,Z"]⟩,
    ⟨0x1d5ee, 0x1d607, ["MATHEMATICAL SANS-SERIF BOLD SMALL:A,B,C,D,E,F,G,H,I,J,K,L,M,N,O,P,Q,R,S",
      "T,U,V,W,X,Y,Z"]⟩,
    ⟨0x1d608, 0x1d621, ["MATHEMATICAL SANS-SERIF ITALIC CAPITAL:A,B,C,D,E,F,G,H,I,J,K,L,M,N,O,P,Q",
      "R,S,T,U,V,W,X,Y,Z"]⟩,
    ⟨0x1d622, 0x1d63b, ["MATHEMATICAL SANS-SERIF ITALIC SMALL:A,B,C,D,E,F,G,H,I,J,K,L,M,N,O,P,Q,R",
      "S,T,U,V,W,X,Y,Z"]⟩,
    ⟨0x1d63c, 0x1d655, ["MATHEMATICAL SANS-SERIF BOLD ITALIC CAPITAL:A,B,C,D,E,F,G,H,I,J,K,L,M,N,O",
      "P,Q,R,S,T,U,V,W,X,Y,Z"]⟩,
    ⟨0x1d656, 0x1d66f, ["MATHEMATICAL SANS-SERIF BOLD ITALIC SMALL:A,B,C,D,E,F,G,H,I,J,K,L,M,N,O,P",
      "Q,R,S,T,U,V,W,X,Y,Z"]⟩,
    ⟨0x1d670, 0x1d689, ["MATHEMATICAL MONOSPACE CAPITAL:A,B,C,D,E,F,G,H,I,J,K,L,M,N,O,P,Q,R,S,T,U",
      "V,W,X,Y,Z"]⟩,
    ⟨0x1d68a, 0x1d6a3, ["MATHEMATICAL MONOSPACE SMALL:A,B,C,D,E,F,G,H,I,J,K,L,M,N,O,P,Q,R,S,T,U,V",
      "W,X,Y,Z"]⟩,
    ⟨0x1d6a4, 0x1d6a5, ["MATHEMATICAL ITALIC SMALL DOTLESS:I,J"]⟩,
    ⟨0x1d6a8, 0x1d6c0, ["MATHEMATICAL BOLD CAPITAL:ALPHA,BETA,GAMMA,DELTA,EPSILON,ZETA,ETA,THETA",
      "IOTA,KAPPA,LAMDA,MU,NU,XI,OMICRON,PI,RHO,THETA SYMBOL,SIGMA,TAU,UPSILON,PHI,CHI,PSI,OMEGA"]⟩,
    ⟨0x1d6c1, 0x1d6e1, ["MATHEMATICAL BOLD:NABLA,SMALL ALPHA,SMALL BETA,SMALL GAMMA,SMALL DELTA",
      "SMALL EPSILON,SMALL ZETA,SMALL ETA,SMALL THETA,SMALL IOTA,SMALL KAPPA,SMALL LAMDA,SMALL MU",
      "SMALL NU,SMALL XI,SMALL OMICRON,SMALL PI,SMALL RHO,SMALL FINAL SIGMA,SMALL SIGMA,SMALL TAU",
      "SMALL UPSILON,SMALL PHI,SMALL CHI,SMALL PSI,SMALL OMEGA,PARTIAL DIFFERENTIAL,EPSILON SYMBOL",
      "THETA SYMBOL,KAPPA SYMBOL,PHI SYMBOL,RHO SYMBOL,PI SYMBOL"]⟩,
    ⟨0x1d6e2, 0x1d6fa, ["MATHEMATICAL ITALIC CAPITAL:ALPHA,BETA,GAMMA,DELTA,EPSILON,ZETA,ETA,THETA",
      "IOTA,KAPPA,LAMDA,MU,NU,XI,OMICRON,PI,RHO,THETA SYMBOL,SIGMA,TAU,UPSILON,PHI,CHI,PSI,OMEGA"]⟩,
    ⟨0x1d6fb, 0x1d71b, ["MATHEMATICAL ITALIC:NABLA,SMALL ALPHA,SMALL BETA,SMALL GAMMA,SMALL DELTA",
      "SMALL EPSILON,SMALL ZETA,SMALL ETA,SMALL THETA,SMALL IOTA,SMALL KAPPA,SMALL LAMDA,SMALL MU",
      "SMALL NU,SMALL XI,SMALL OMICRON,SMALL PI,SMALL RHO,SMALL FINAL SIGMA,SMALL SIGMA,SMALL TAU",
      "SMALL UPSILON,SMALL PHI,SMALL CHI,SMALL PSI,SMALL OMEGA,PARTIAL DIFFERENTIAL,EPSILON SYMBOL",
      "THETA SYMBOL,KAPPA SYMBOL,PHI SYMBOL,RHO SYMBOL,PI SYMBOL"]⟩,
    ⟨0x1d71c, 0x1d734, ["MATHEMATICAL BOLD ITALIC CAPITAL:ALPHA,BETA,GAMMA,DELTA,EPSILON,ZETA,ETA",
      "THETA,IOTA,KAPPA,LAMDA,MU,NU,XI,OMICRON,PI,RHO,THETA SYMBOL,SIGMA,TAU,UPSILON,PHI,CHI,PSI",
      "OMEGA"]⟩,
    ⟨0x1d735, 0x1d755, ["MATHEMATICAL BOLD ITALIC:NABLA,SMALL ALPHA,SMALL BETA,SMALL GAMMA",
      "SMALL DELTA,SMALL EPSILON,SMALL ZETA,SMALL ETA,SMALL THETA,SMALL IOTA,SMALL KAPPA",
      "SMALL LAMDA,SMALL MU,SMALL NU,SMALL XI,SMALL OMICRON,SMALL PI,SMALL RHO,SMALL FINAL SIGMA",
      "SMALL SIGMA,SMALL TAU,SMALL UPSILON,SMALL PHI,SMALL CHI,SMALL PSI,SMALL OMEGA",
      "PARTIAL DIFFERENTIAL,EPSILON SYMBOL,THETA SYMBOL,KAPPA SYMBOL,PHI SYMBOL,RHO SYMBOL",
      "PI SYMBOL"]⟩,
    ⟨0x1d756, 0x1d76e, ["MATHEMATICAL SANS-SERIF BOLD CAPITAL:ALPHA,BETA,GAMMA,DELTA,EPSILON,ZETA",
      "ETA,THETA,IOTA,KAPPA,LAMDA,MU,NU,XI,OMICRON,PI,RHO,THETA SYMBOL,SIGMA,TAU,UPSILON,PHI,CHI",
      "PSI,OMEGA"]⟩,
    ⟨0x1d76f, 0x1d78f, ["MATHEMATICAL SANS-SERIF BOLD:NABLA,SMALL ALPHA,SMALL BETA,SMALL GAMMA",
      "SMALL DELTA,SMALL EPSILON,SMALL ZETA,SMALL ETA,SMALL THETA,SMALL IOTA,SMALL KAPPA",
      "SMALL LAMDA,SMALL MU,SMALL NU,SMALL XI,SMALL OMICRON,SMALL PI,SMALL RHO,SMALL FINAL SIGMA",
      "SMALL SIGMA,SMALL TAU,SMALL UPSILON,SMALL PHI,SMALL CHI,SMALL PSI,SMALL OMEGA",
      "PARTIAL DIFFERENTIAL,EPSILON SYMBOL,THETA SYMBOL,KAPPA SYMBOL,PHI SYMBOL,RHO SYMBOL",
      "PI SYMBOL"]⟩,
    ⟨0x1d790, 0x1d7a8, ["MATHEMATICAL SANS-SERIF BOLD ITALIC CAPITAL:ALPHA,BETA,GAMMA,DELTA",
      "EPSILON,ZETA,ETA,THETA,IOTA,KAPPA,LAMDA,MU,NU,XI,OMICRON,PI,RHO,THETA SYMBOL,SIGMA,TAU",
      "UPSILON,PHI,CHI,PSI,OMEGA"]⟩,
    ⟨0x1d7a9, 0x1d7c9, ["MATHEMATICAL SANS-SERIF BOLD ITALIC:NABLA,SMALL ALPHA,SMALL BETA",
      "SMALL GAMMA,SMALL DELTA,SMALL EPSILON,SMALL ZETA,SMALL ETA,SMALL THETA,SMALL IOTA",
      "SMALL KAPPA,SMALL LAMDA,SMALL MU,SMALL NU,SMALL XI,SMALL OMICRON,SMALL PI,SMALL RHO",
      "SMALL FINAL SIGMA,SMALL SIGMA,SMALL TAU,SMALL UPSILON,SMALL PHI,SMALL CHI,SMALL PSI",
      "SMALL OMEGA,PARTIAL DIFFERENTIAL,EPSILON SYMBOL,THETA SYMBOL,KAPPA SYMBOL,PHI SYMBOL",
      "RHO SYMBOL,PI SYMBOL"]⟩,
    ⟨0x1d7ca, 0x1d7cb, ["MATHEMATICAL BOLD:CAPITAL DIGAMMA,SMALL DIGAMMA"]⟩,
    ⟨0x1d7ce, 0x1d7d7, ["MATHEMATICAL BOLD DIGIT:ZERO,ONE,TWO,THREE,FOUR,FIVE,SIX,SEVEN,EIGHT",
      "NINE"]⟩,
    ⟨0x1d7d8, 0x1d7e1, ["MATHEMATICAL DOUBLE-STRUCK DIGIT:ZERO,ONE,TWO,THREE,FOUR,FIVE,SIX,SEVEN",
      "EIGHT,NINE"]⟩,
    ⟨0x1d7e2, 0x1d7eb, ["MATHEMATICAL SANS-SERIF DIGIT:ZERO,ONE,TWO,THREE,FOUR,FIVE,SIX,SEVEN",
      "EIGHT,NINE"]⟩,
    ⟨0x1d7ec, 0x1d7f5, ["MATHEMATICAL SANS-SERIF BOLD DIGIT:ZERO,ONE,TWO,THREE,FOUR,FIVE,SIX,SEVEN",
      "EIGHT,NINE"]⟩,
    ⟨0x1d7f6, 0x1d7ff, ["MATHEMATICAL MONOSPACE DIGIT:ZERO,ONE,TWO,THREE,FOUR,FIVE,SIX,SEVEN,EIGHT",
      "NINE"]⟩,
    ⟨0x1d800, 0x1d80f, ["SIGNWRITING:HAND-FIST INDEX,HAND-CIRCLE INDEX,HAND-CUP INDEX",
      "HAND-OVAL INDEX,HAND-HINGE INDEX,HAND-ANGLE INDEX,HAND-FIST INDEX BENT",
      "HAND-CIRCLE INDEX BENT,HAND-FIST THUMB UNDER INDEX BENT,HAND-FIST INDEX RAISED KNUCKLE",
      "HAND-FIST INDEX CUPPED,HAND-FIST INDEX HINGED,HAND-FIST INDEX HINGED LOW",
      "HAND-CIRCLE INDEX HINGE,HAND-FIST INDEX MIDDLE,HAND-CIRCLE INDEX MIDDLE"]⟩,
    ⟨0x1d810, 0x1d81a, ["SIGNWRITING HAND-FIST INDEX:MIDDLE BENT,MIDDLE RAISED KNUCKLES",
      "MIDDLE HINGED,UP MIDDLE HINGED,HINGED MIDDLE UP,MIDDLE CONJOINED",
      "MIDDLE CONJOINED INDEX BENT,MIDDLE CONJOINED MIDDLE BENT,MIDDLE CONJOINED CUPPED",
      "MIDDLE CONJOINED HINGED,MIDDLE CROSSED"]⟩,
    ⟨0x1d81b, 0x1d81f, ["SIGNWRITING:HAND-CIRCLE INDEX MIDDLE CROSSED",
      "HAND-FIST MIDDLE BENT OVER INDEX,HAND-FIST INDEX BENT OVER MIDDLE",
      "HAND-FIST INDEX MIDDLE THUMB,HAND-CIRCLE INDEX MIDDLE THUMB"]⟩,
    ⟨0x1d820, 0x1d843, ["SIGNWRITING HAND-FIST:INDEX MIDDLE STRAIGHT THUMB BENT",
      "INDEX MIDDLE BENT THUMB STRAIGHT,INDEX MIDDLE THUMB BENT",
      "INDEX MIDDLE HINGED SPREAD THUMB SIDE,INDEX UP MIDDLE HINGED THUMB SIDE",
      "INDEX UP MIDDLE HINGED THUMB CONJOINED,INDEX HINGED MIDDLE UP THUMB SIDE",
      "INDEX MIDDLE UP SPREAD THUMB FORWARD,INDEX MIDDLE THUMB CUPPED,INDEX MIDDLE THUMB CIRCLED",
      "INDEX MIDDLE THUMB HOOKED,INDEX MIDDLE THUMB HINGED,THUMB BETWEEN INDEX MIDDLE STRAIGHT",
      "INDEX MIDDLE CONJOINED THUMB SIDE,INDEX MIDDLE CONJOINED THUMB SIDE CONJOINED",
      "INDEX MIDDLE CONJOINED THUMB SIDE BENT,MIDDLE THUMB HOOKED INDEX UP",
      "INDEX THUMB HOOKED MIDDLE UP,INDEX MIDDLE CONJOINED HINGED THUMB SIDE",
      "INDEX MIDDLE CROSSED THUMB SIDE,INDEX MIDDLE CONJOINED THUMB FORWARD",
      "INDEX MIDDLE CONJOINED CUPPED THUMB FORWARD,MIDDLE THUMB CUPPED INDEX UP",
      "INDEX THUMB CUPPED MIDDLE UP,MIDDLE THUMB CIRCLED INDEX UP",
      "MIDDLE THUMB CIRCLED INDEX HINGED,INDEX THUMB ANGLED OUT MIDDLE UP",
      "INDEX THUMB ANGLED IN MIDDLE UP,INDEX THUMB CIRCLED MIDDLE UP",
      "INDEX MIDDLE THUMB CONJOINED HINGED,INDEX MIDDLE THUMB ANGLED OUT,INDEX MIDDLE THUMB ANGLED",
      "MIDDLE THUMB ANGLED OUT INDEX UP,MIDDLE THUMB ANGLED OUT INDEX CROSSED",
      "MIDDLE THUMB ANGLED INDEX UP,INDEX THUMB HOOKED MIDDLE HINGED"]⟩,
    ⟨0x1d844, 0x1d8dd, ["SIGNWRITING:HAND-FLAT FOUR FINGERS,HAND-FLAT FOUR FINGERS BENT",
      "HAND-FLAT FOUR FINGERS HINGED,HAND-FLAT FOUR FINGERS CONJOINED",
      "HAND-FLAT FOUR FINGERS CONJOINED SPLIT,HAND-CLAW FOUR FINGERS CONJOINED",
      "HAND-FIST FOUR FINGERS CONJOINED BENT,HAND-HINGE FOUR FINGERS CONJOINED",
      "HAND-FLAT FIVE FINGERS SPREAD,HAND-FLAT HEEL FIVE FINGERS SPREAD",
      "HAND-FLAT FIVE FINGERS SPREAD FOUR BENT,HAND-FLAT HEEL FIVE FINGERS SPREAD FOUR BENT",
      "HAND-FLAT FIVE FINGERS SPREAD BENT,HAND-FLAT HEEL FIVE FINGERS SPREAD BENT",
      "HAND-FLAT FIVE FINGERS SPREAD THUMB FORWARD,HAND-CUP FIVE FINGERS SPREAD",
      "HAND-CUP FIVE FINGERS SPREAD OPEN,HAND-HINGE FIVE FINGERS SPREAD OPEN",
      "HAND-OVAL FIVE FINGERS SPREAD,HAND-FLAT FIVE FINGERS SPREAD HINGED",
      "HAND-FLAT FIVE FINGERS SPREAD HINGED THUMB SIDE",
      "HAND-FLAT FIVE FINGERS SPREAD HINGED NO THUMB,HAND-FLAT,HAND-FLAT BETWEEN PALM FACINGS",
      "HAND-FLAT HEEL,HAND-FLAT THUMB SIDE,HAND-FLAT HEEL THUMB SIDE,HAND-FLAT THUMB BENT",
      "HAND-FLAT THUMB FORWARD,HAND-FLAT SPLIT INDEX THUMB SIDE,HAND-FLAT SPLIT CENTRE",
      "HAND-FLAT SPLIT CENTRE THUMB SIDE,HAND-FLAT SPLIT CENTRE THUMB SIDE BENT",
      "HAND-FLAT SPLIT LITTLE,HAND-CLAW,HAND-CLAW THUMB SIDE,HAND-CLAW NO THUMB",
      "HAND-CLAW THUMB FORWARD,HAND-HOOK CURLICUE,HAND-HOOK,HAND-CUP OPEN,HAND-CUP",
      "HAND-CUP OPEN THUMB SIDE,HAND-CUP THUMB SIDE,HAND-CUP OPEN NO THUMB,HAND-CUP NO THUMB",
      "HAND-CUP OPEN THUMB FORWARD,HAND-CUP THUMB FORWARD,HAND-CURLICUE OPEN,HAND-CURLICUE",
      "HAND-CIRCLE,HAND-OVAL,HAND-OVAL THUMB SIDE,HAND-OVAL NO THUMB,HAND-OVAL THUMB FORWARD",
      "HAND-HINGE OPEN,HAND-HINGE OPEN THUMB FORWARD,HAND-HINGE,HAND-HINGE SMALL",
      "HAND-HINGE OPEN THUMB SIDE,HAND-HINGE THUMB SIDE,HAND-HINGE OPEN NO THUMB",
      "HAND-HINGE NO THUMB,HAND-HINGE THUMB SIDE TOUCHING INDEX",
      "HAND-HINGE THUMB BETWEEN MIDDLE RING,HAND-ANGLE,HAND-FIST INDEX MIDDLE RING",
      "HAND-CIRCLE INDEX MIDDLE RING,HAND-HINGE INDEX MIDDLE RING,HAND-ANGLE INDEX MIDDLE RING",
      "HAND-HINGE LITTLE,HAND-FIST INDEX MIDDLE RING BENT,HAND-FIST INDEX MIDDLE RING CONJOINED",
      "HAND-HINGE INDEX MIDDLE RING CONJOINED,HAND-FIST LITTLE DOWN",
      "HAND-FIST LITTLE DOWN RIPPLE STRAIGHT,HAND-FIST LITTLE DOWN RIPPLE CURVED",
      "HAND-FIST LITTLE DOWN OTHERS CIRCLED,HAND-FIST LITTLE UP,HAND-FIST THUMB UNDER LITTLE UP",
      "HAND-CIRCLE LITTLE UP,HAND-OVAL LITTLE UP,HAND-ANGLE LITTLE UP",
      "HAND-FIST LITTLE RAISED KNUCKLE,HAND-FIST LITTLE BENT,HAND-FIST LITTLE TOUCHES THUMB",
      "HAND-FIST LITTLE THUMB,HAND-HINGE LITTLE THUMB,HAND-FIST LITTLE INDEX THUMB",
      "HAND-HINGE LITTLE INDEX THUMB,HAND-ANGLE LITTLE INDEX THUMB INDEX THUMB OUT",
      "HAND-ANGLE LITTLE INDEX THUMB INDEX THUMB,HAND-FIST LITTLE INDEX,HAND-CIRCLE LITTLE INDEX",
      "HAND-HINGE LITTLE INDEX,HAND-ANGLE LITTLE INDEX,HAND-FIST INDEX MIDDLE LITTLE",
      "HAND-CIRCLE INDEX MIDDLE LITTLE,HAND-HINGE INDEX MIDDLE LITTLE,HAND-HINGE RING",
      "HAND-ANGLE INDEX MIDDLE LITTLE,HAND-FIST INDEX MIDDLE CROSS LITTLE",
      "HAND-CIRCLE INDEX MIDDLE CROSS LITTLE,HAND-FIST RING DOWN",
      "HAND-HINGE RING DOWN INDEX THUMB HOOK MIDDLE,HAND-ANGLE RING DOWN MIDDLE THUMB INDEX CROSS",
      "HAND-FIST RING UP,HAND-FIST RING RAISED KNUCKLE,HAND-FIST RING LITTLE",
      "HAND-CIRCLE RING LITTLE,HAND-OVAL RING LITTLE,HAND-ANGLE RING LITTLE,HAND-FIST RING MIDDLE",
      "HAND-FIST RING MIDDLE CONJOINED,HAND-FIST RING MIDDLE RAISED KNUCKLES,HAND-FIST RING INDEX",
      "HAND-FIST RING THUMB,HAND-HOOK RING THUMB,HAND-FIST INDEX RING LITTLE",
      "HAND-CIRCLE INDEX RING LITTLE,HAND-CURLICUE INDEX RING LITTLE ON",
      "HAND-HOOK INDEX RING LITTLE OUT,HAND-HOOK INDEX RING LITTLE IN",
      "HAND-HOOK INDEX RING LITTLE UNDER,HAND-CUP INDEX RING LITTLE,HAND-HINGE INDEX RING LITTLE",
      "HAND-ANGLE INDEX RING LITTLE OUT,HAND-ANGLE INDEX RING LITTLE,HAND-FIST MIDDLE DOWN",
      "HAND-HINGE MIDDLE,HAND-FIST MIDDLE UP,HAND-CIRCLE MIDDLE UP,HAND-FIST MIDDLE RAISED KNUCKLE",
      "HAND-FIST MIDDLE UP THUMB SIDE,HAND-HOOK MIDDLE THUMB,HAND-FIST MIDDLE THUMB LITTLE",
      "HAND-FIST MIDDLE LITTLE,HAND-FIST MIDDLE RING LITTLE,HAND-CIRCLE MIDDLE RING LITTLE",
      "HAND-CURLICUE MIDDLE RING LITTLE ON,HAND-CUP MIDDLE RING LITTLE",
      "HAND-HINGE MIDDLE RING LITTLE,HAND-ANGLE MIDDLE RING LITTLE OUT",
      "HAND-ANGLE MIDDLE RING LITTLE IN,HAND-ANGLE MIDDLE RING LITTLE",
      "HAND-CIRCLE MIDDLE RING LITTLE BENT,HAND-CLAW MIDDLE RING LITTLE CONJOINED",
      "HAND-CLAW MIDDLE RING LITTLE CONJOINED SIDE,HAND-HOOK MIDDLE RING LITTLE CONJOINED OUT",
      "HAND-HOOK MIDDLE RING LITTLE CONJOINED IN,HAND-HOOK MIDDLE RING LITTLE CONJOINED",
      "HAND-HINGE INDEX HINGED,HAND-FIST INDEX THUMB SIDE,HAND-HINGE INDEX THUMB SIDE"]⟩,
    ⟨0x1d8de, 0x1d8e8, ["SIGNWRITING HAND-FIST INDEX THUMB:SIDE THUMB DIAGONAL",
      "SIDE THUMB CONJOINED,SIDE THUMB BENT,SIDE INDEX BENT,SIDE BOTH BENT,SIDE INDEX HINGE",
      "FORWARD INDEX STRAIGHT,FORWARD INDEX BENT,HOOK,CURLICUE,CURVE THUMB INSIDE"]⟩,
    ⟨0x1d8e9, 0x1d8f5, ["SIGNWRITING:HAND-CLAW INDEX THUMB CURVE THUMB INSIDE",
      "HAND-FIST INDEX THUMB CURVE THUMB UNDER,HAND-FIST INDEX THUMB CIRCLE,HAND-CUP INDEX THUMB",
      "HAND-CUP INDEX THUMB OPEN,HAND-HINGE INDEX THUMB OPEN,HAND-HINGE INDEX THUMB LARGE",
      "HAND-HINGE INDEX THUMB,HAND-HINGE INDEX THUMB SMALL,HAND-ANGLE INDEX THUMB OUT",
      "HAND-ANGLE INDEX THUMB IN,HAND-ANGLE INDEX THUMB,HAND-FIST THUMB"]⟩,
    ⟨0x1d8f6, 0x1d902, ["SIGNWRITING HAND-FIST THUMB:HEEL,SIDE DIAGONAL,SIDE CONJOINED,SIDE BENT",
      "FORWARD,BETWEEN INDEX MIDDLE,BETWEEN MIDDLE RING,BETWEEN RING LITTLE,UNDER TWO FINGERS",
      "OVER TWO FINGERS,UNDER THREE FINGERS,UNDER FOUR FINGERS,OVER FOUR RAISED KNUCKLES"]⟩,
    ⟨0x1d903, 0x1d929, ["SIGNWRITING:HAND-FIST,HAND-FIST HEEL,TOUCH SINGLE,TOUCH MULTIPLE",
      "TOUCH BETWEEN,GRASP SINGLE,GRASP MULTIPLE,GRASP BETWEEN,STRIKE SINGLE,STRIKE MULTIPLE",
      "STRIKE BETWEEN,BRUSH SINGLE,BRUSH MULTIPLE,BRUSH BETWEEN,RUB SINGLE,RUB MULTIPLE",
      "RUB BETWEEN,SURFACE SYMBOLS,SURFACE BETWEEN,SQUEEZE LARGE SINGLE,SQUEEZE SMALL SINGLE",
      "SQUEEZE LARGE MULTIPLE,SQUEEZE SMALL MULTIPLE,SQUEEZE SEQUENTIAL,FLICK LARGE SINGLE",
      "FLICK SMALL SINGLE,FLICK LARGE MULTIPLE,FLICK SMALL MULTIPLE,FLICK SEQUENTIAL",
      "SQUEEZE FLICK ALTERNATING,MOVEMENT-HINGE UP DOWN LARGE,MOVEMENT-HINGE UP DOWN SMALL",
      "MOVEMENT-HINGE UP SEQUENTIAL,MOVEMENT-HINGE DOWN SEQUENTIAL",
      "MOVEMENT-HINGE UP DOWN ALTERNATING LARGE,MOVEMENT-HINGE UP DOWN ALTERNATING SMALL",
      "MOVEMENT-HINGE SIDE TO SIDE SCISSORS,MOVEMENT-WALLPLANE FINGER CONTACT",
      "MOVEMENT-FLOORPLANE FINGER CONTACT"]⟩,
    ⟨0x1d92a, 0x1d94a, ["SIGNWRITING MOVEMENT-WALLPLANE:SINGLE STRAIGHT SMALL",
      "SINGLE STRAIGHT MEDIUM,SINGLE STRAIGHT LARGE,SINGLE STRAIGHT LARGEST,SINGLE WRIST FLEX",
      "DOUBLE STRAIGHT,DOUBLE WRIST FLEX,DOUBLE ALTERNATING,DOUBLE ALTERNATING WRIST FLEX,CROSS",
      "TRIPLE STRAIGHT MOVEMENT,TRIPLE WRIST FLEX,TRIPLE ALTERNATING,TRIPLE ALTERNATING WRIST FLEX",
      "BEND SMALL,BEND MEDIUM,BEND LARGE,CORNER SMALL,CORNER MEDIUM,CORNER LARGE,CORNER ROTATION",
      "CHECK SMALL,CHECK MEDIUM,CHECK LARGE,BOX SMALL,BOX MEDIUM,BOX LARGE,ZIGZAG SMALL",
      "ZIGZAG MEDIUM,ZIGZAG LARGE,PEAKS SMALL,PEAKS MEDIUM,PEAKS LARGE"]⟩,
    ⟨0x1d94b, 0x1d954, ["SIGNWRITING TRAVEL-WALLPLANE:ROTATION-WALLPLANE SINGLE",
      "ROTATION-WALLPLANE DOUBLE,ROTATION-WALLPLANE ALTERNATING,ROTATION-FLOORPLANE SINGLE",
      "ROTATION-FLOORPLANE DOUBLE,ROTATION-FLOORPLANE ALTERNATING,SHAKING,ARM SPIRAL SINGLE",
      "ARM SPIRAL DOUBLE,ARM SPIRAL TRIPLE"]⟩,
    ⟨0x1d955, 0x1d964, ["SIGNWRITING MOVEMENT-DIAGONAL:AWAY SMALL,AWAY MEDIUM,AWAY LARGE",
      "AWAY LARGEST,TOWARDS SMALL,TOWARDS MEDIUM,TOWARDS LARGE,TOWARDS LARGEST,BETWEEN AWAY SMALL",
      "BETWEEN AWAY MEDIUM,BETWEEN AWAY LARGE,BETWEEN AWAY LARGEST,BETWEEN TOWARDS SMALL",
      "BETWEEN TOWARDS MEDIUM,BETWEEN TOWARDS LARGE,BETWEEN TOWARDS LARGEST"]⟩,
    ⟨0x1d965, 0x1d980, ["SIGNWRITING MOVEMENT-FLOORPLANE:SINGLE STRAIGHT SMALL",
      "SINGLE STRAIGHT MEDIUM,SINGLE STRAIGHT LARGE,SINGLE STRAIGHT LARGEST,SINGLE WRIST FLEX",
      "DOUBLE STRAIGHT,DOUBLE WRIST FLEX,DOUBLE ALTERNATING,DOUBLE ALTERNATING WRIST FLEX,CROSS",
      "TRIPLE STRAIGHT MOVEMENT,TRIPLE WRIST FLEX,TRIPLE ALTERNATING MOVEMENT",
      "TRIPLE ALTERNATING WRIST FLEX,BEND,CORNER SMALL,CORNER MEDIUM,CORNER LARGE,CHECK,BOX SMALL",
      "BOX MEDIUM,BOX LARGE,ZIGZAG SMALL,ZIGZAG MEDIUM,ZIGZAG LARGE,PEAKS SMALL,PEAKS MEDIUM",
      "PEAKS LARGE"]⟩,
    ⟨0x1d981, 0x1d987, ["SIGNWRITING TRAVEL-FLOORPLANE:ROTATION-FLOORPLANE SINGLE",
      "ROTATION-FLOORPLANE DOUBLE,ROTATION-FLOORPLANE ALTERNATING,ROTATION-WALLPLANE SINGLE",
      "ROTATION-WALLPLANE DOUBLE,ROTATION-WALLPLANE ALTERNATING,SHAKING"]⟩,
    ⟨0x1d988, 0x1d9a1, ["SIGNWRITING MOVEMENT-WALLPLANE:CURVE QUARTER SMALL,CURVE QUARTER MEDIUM",
      "CURVE QUARTER LARGE,CURVE QUARTER LARGEST,CURVE HALF-CIRCLE SMALL,CURVE HALF-CIRCLE MEDIUM",
      "CURVE HALF-CIRCLE LARGE,CURVE HALF-CIRCLE LARGEST,CURVE THREE-QUARTER CIRCLE SMALL",
      "CURVE THREE-QUARTER CIRCLE MEDIUM,HUMP SMALL,HUMP MEDIUM,HUMP LARGE,LOOP SMALL,LOOP MEDIUM",
      "LOOP LARGE,LOOP SMALL DOUBLE,WAVE CURVE DOUBLE SMALL,WAVE CURVE DOUBLE MEDIUM",
      "WAVE CURVE DOUBLE LARGE,WAVE CURVE TRIPLE SMALL,WAVE CURVE TRIPLE MEDIUM",
      "WAVE CURVE TRIPLE LARGE,CURVE THEN STRAIGHT,CURVED CROSS SMALL,CURVED CROSS MEDIUM"]⟩,
    ⟨0x1d9a2, 0x1d9b3, ["SIGNWRITING:ROTATION-WALLPLANE SINGLE,ROTATION-WALLPLANE DOUBLE",
      "ROTATION-WALLPLANE ALTERNATE,MOVEMENT-WALLPLANE SHAKING",
      "MOVEMENT-WALLPLANE CURVE HITTING FRONT WALL,MOVEMENT-WALLPLANE HUMP HITTING FRONT WALL",
      "MOVEMENT-WALLPLANE LOOP HITTING FRONT WALL,MOVEMENT-WALLPLANE WAVE HITTING FRONT WALL",
      "ROTATION-WALLPLANE SINGLE HITTING FRONT WALL,ROTATION-WALLPLANE DOUBLE HITTING FRONT WALL",
      "ROTATION-WALLPLANE ALTERNATING HITTING FRONT WALL,MOVEMENT-WALLPLANE CURVE HITTING CHEST",
      "MOVEMENT-WALLPLANE HUMP HITTING CHEST,MOVEMENT-WALLPLANE LOOP HITTING CHEST",
      "MOVEMENT-WALLPLANE WAVE HITTING CHEST,ROTATION-WALLPLANE SINGLE HITTING CHEST",
      "ROTATION-WALLPLANE DOUBLE HITTING CHEST,ROTATION-WALLPLANE ALTERNATING HITTING CHEST"]⟩,
    ⟨0x1d9b4, 0x1d9b6, ["SIGNWRITING MOVEMENT-WALLPLANE WAVE DIAGONAL PATH:SMALL,MEDIUM,LARGE"]⟩,
    ⟨0x1d9b7, 0x1d9c2, ["SIGNWRITING MOVEMENT-FLOORPLANE:CURVE HITTING CEILING SMALL",
      "CURVE HITTING CEILING LARGE,HUMP HITTING CEILING SMALL DOUBLE",
      "HUMP HITTING CEILING LARGE DOUBLE,HUMP HITTING CEILING SMALL TRIPLE",
      "HUMP HITTING CEILING LARGE TRIPLE,LOOP HITTING CEILING SMALL SINGLE",
      "LOOP HITTING CEILING LARGE SINGLE,LOOP HITTING CEILING SMALL DOUBLE",
      "LOOP HITTING CEILING LARGE DOUBLE,WAVE HITTING CEILING SMALL,WAVE HITTING CEILING LARGE"]⟩,
    ⟨0x1d9c3, 0x1d9c5, ["SIGNWRITING ROTATION-FLOORPLANE:SINGLE HITTING CEILING",
      "DOUBLE HITTING CEILING,ALTERNATING HITTING CEILING"]⟩,
    ⟨0x1d9c6, 0x1d9d1, ["SIGNWRITING MOVEMENT-FLOORPLANE:CURVE HITTING FLOOR SMALL",
      "CURVE HITTING FLOOR LARGE,HUMP HITTING FLOOR SMALL DOUBLE,HUMP HITTING FLOOR LARGE DOUBLE",
      "HUMP HITTING FLOOR TRIPLE SMALL TRIPLE,HUMP HITTING FLOOR TRIPLE LARGE TRIPLE",
      "LOOP HITTING FLOOR SMALL SINGLE,LOOP HITTING FLOOR LARGE SINGLE",
      "LOOP HITTING FLOOR SMALL DOUBLE,LOOP HITTING FLOOR LARGE DOUBLE,WAVE HITTING FLOOR SMALL",
      "WAVE HITTING FLOOR LARGE"]⟩,
    ⟨0x1d9d2, 0x1d9d4, ["SIGNWRITING ROTATION-FLOORPLANE:SINGLE HITTING FLOOR,DOUBLE HITTING FLOOR",
      "ALTERNATING HITTING FLOOR"]⟩,
    ⟨0x1d9d5, 0x1d9de, ["SIGNWRITING MOVEMENT-FLOORPLANE:CURVE SMALL,CURVE MEDIUM,CURVE LARGE",
      "CURVE LARGEST,CURVE COMBINED,HUMP SMALL,LOOP SMALL,WAVE SNAKE,WAVE SMALL,WAVE LARGE"]⟩,
    ⟨0x1d9df, 0x1d9e2, ["SIGNWRITING:ROTATION-FLOORPLANE SINGLE,ROTATION-FLOORPLANE DOUBLE",
      "ROTATION-FLOORPLANE ALTERNATING,MOVEMENT-FLOORPLANE SHAKING PARALLEL"]⟩,
    ⟨0x1d9e3, 0x1d9e6, ["SIGNWRITING MOVEMENT-WALLPLANE ARM CIRCLE:SMALL SINGLE,MEDIUM SINGLE",
      "SMALL DOUBLE,MEDIUM DOUBLE"]⟩,
    ⟨0x1d9e7, 0x1d9ec, ["SIGNWRITING MOVEMENT-FLOORPLANE ARM CIRCLE HITTING WALL:SMALL SINGLE",
      "MEDIUM SINGLE,LARGE SINGLE,SMALL DOUBLE,MEDIUM DOUBLE,LARGE DOUBLE"]⟩,
    ⟨0x1d9ed, 0x1da8b, ["SIGNWRITING:MOVEMENT-WALLPLANE WRIST CIRCLE FRONT SINGLE",
      "MOVEMENT-WALLPLANE WRIST CIRCLE FRONT DOUBLE",
      "MOVEMENT-FLOORPLANE WRIST CIRCLE HITTING WALL SINGLE",
      "MOVEMENT-FLOORPLANE WRIST CIRCLE HITTING WALL DOUBLE",
      "MOVEMENT-WALLPLANE FINGER CIRCLES SINGLE,MOVEMENT-WALLPLANE FINGER CIRCLES DOUBLE",
      "MOVEMENT-FLOORPLANE FINGER CIRCLES HITTING WALL SINGLE",
      "MOVEMENT-FLOORPLANE FINGER CIRCLES HITTING WALL DOUBLE,DYNAMIC ARROWHEAD SMALL",
      "DYNAMIC ARROWHEAD LARGE,DYNAMIC FAST,DYNAMIC SLOW,DYNAMIC TENSE,DYNAMIC RELAXED",
      "DYNAMIC SIMULTANEOUS,DYNAMIC SIMULTANEOUS ALTERNATING,DYNAMIC EVERY OTHER TIME",
      "DYNAMIC GRADUAL,HEAD,HEAD RIM,HEAD MOVEMENT-WALLPLANE STRAIGHT,HEAD MOVEMENT-WALLPLANE TILT",
      "HEAD MOVEMENT-FLOORPLANE STRAIGHT,HEAD MOVEMENT-WALLPLANE CURVE",
      "HEAD MOVEMENT-FLOORPLANE CURVE,HEAD MOVEMENT CIRCLE",
      "FACE DIRECTION POSITION NOSE FORWARD TILTING,FACE DIRECTION POSITION NOSE UP OR DOWN",
      "FACE DIRECTION POSITION NOSE UP OR DOWN TILTING,EYEBROWS STRAIGHT UP",
      "EYEBROWS STRAIGHT NEUTRAL,EYEBROWS STRAIGHT DOWN,DREAMY EYEBROWS NEUTRAL DOWN",
      "DREAMY EYEBROWS DOWN NEUTRAL,DREAMY EYEBROWS UP NEUTRAL,DREAMY EYEBROWS NEUTRAL UP",
      "FOREHEAD NEUTRAL,FOREHEAD CONTACT,FOREHEAD WRINKLED,EYES OPEN,EYES SQUEEZED,EYES CLOSED",
      "EYE BLINK SINGLE,EYE BLINK MULTIPLE,EYES HALF OPEN,EYES WIDE OPEN,EYES HALF CLOSED",
      "EYES WIDENING MOVEMENT,EYE WINK,EYELASHES UP,EYELASHES DOWN,EYELASHES FLUTTERING",
      "EYEGAZE-WALLPLANE STRAIGHT,EYEGAZE-WALLPLANE STRAIGHT DOUBLE",
      "EYEGAZE-WALLPLANE STRAIGHT ALTERNATING,EYEGAZE-FLOORPLANE STRAIGHT",
      "EYEGAZE-FLOORPLANE STRAIGHT DOUBLE,EYEGAZE-FLOORPLANE STRAIGHT ALTERNATING",
      "EYEGAZE-WALLPLANE CURVED,EYEGAZE-FLOORPLANE CURVED,EYEGAZE-WALLPLANE CIRCLING,CHEEKS PUFFED",
      "CHEEKS NEUTRAL,CHEEKS SUCKED,TENSE CHEEKS HIGH,TENSE CHEEKS MIDDLE,TENSE CHEEKS LOW,EARS",
      "NOSE NEUTRAL,NOSE CONTACT,NOSE WRINKLES,NOSE WIGGLES,AIR BLOWING OUT,AIR SUCKING IN",
      "AIR BLOW SMALL ROTATIONS,AIR SUCK SMALL ROTATIONS,BREATH INHALE,BREATH EXHALE",
      "MOUTH CLOSED NEUTRAL,MOUTH CLOSED FORWARD,MOUTH CLOSED CONTACT,MOUTH SMILE",
      "MOUTH SMILE WRINKLED,MOUTH SMILE OPEN,MOUTH FROWN,MOUTH FROWN WRINKLED,MOUTH FROWN OPEN",
      "MOUTH OPEN CIRCLE,MOUTH OPEN FORWARD,MOUTH OPEN WRINKLED,MOUTH OPEN OVAL",
      "MOUTH OPEN OVAL WRINKLED,MOUTH OPEN OVAL YAWN,MOUTH OPEN RECTANGLE",
      "MOUTH OPEN RECTANGLE WRINKLED,MOUTH OPEN RECTANGLE YAWN,MOUTH KISS,MOUTH KISS FORWARD",
      "MOUTH KISS WRINKLED,MOUTH TENSE,MOUTH TENSE FORWARD,MOUTH TENSE SUCKED",
      "LIPS PRESSED TOGETHER,LIP LOWER OVER UPPER,LIP UPPER OVER LOWER,MOUTH CORNERS",
      "MOUTH WRINKLES SINGLE,MOUTH WRINKLES DOUBLE,TONGUE STICKING OUT FAR,TONGUE LICKING LIPS",
      "TONGUE TIP BETWEEN LIPS,TONGUE TIP TOUCHING INSIDE MOUTH,TONGUE INSIDE MOUTH RELAXED",
      "TONGUE MOVES AGAINST CHEEK,TONGUE CENTRE STICKING OUT,TONGUE CENTRE INSIDE MOUTH,TEETH",
      "TEETH MOVEMENT,TEETH ON TONGUE,TEETH ON TONGUE MOVEMENT,TEETH ON LIPS",
      "TEETH ON LIPS MOVEMENT,TEETH BITE LIPS,MOVEMENT-WALLPLANE JAW,MOVEMENT-FLOORPLANE JAW,NECK",
      "HAIR,EXCITEMENT,SHOULDER HIP SPINE,SHOULDER HIP POSITIONS,WALLPLANE SHOULDER HIP MOVE",
      "FLOORPLANE SHOULDER HIP MOVE,SHOULDER TILTING FROM WAIST,TORSO-WALLPLANE STRAIGHT STRETCH",
      "TORSO-WALLPLANE CURVED BEND,TORSO-FLOORPLANE TWISTING,UPPER BODY TILTING FROM HIP JOINTS",
      "LIMB COMBINATION,LIMB LENGTH-1,LIMB LENGTH-2,LIMB LENGTH-3,LIMB LENGTH-4,LIMB LENGTH-5",
      "LIMB LENGTH-6,LIMB LENGTH-7,FINGER,LOCATION-WALLPLANE SPACE,LOCATION-FLOORPLANE SPACE",
      "LOCATION HEIGHT,LOCATION WIDTH,LOCATION DEPTH,LOCATION HEAD NECK,LOCATION TORSO",
      "LOCATION LIMBS DIGITS,COMMA,FULL STOP,SEMICOLON,COLON,PARENTHESIS"]⟩,
    ⟨0x1da9b, 0x1da9f, ["SIGNWRITING FILL:MODIFIER-2,MODIFIER-3,MODIFIER-4,MODIFIER-5,MODIFIER-6"]⟩,
    ⟨0x1daa1, 0x1daaf, ["SIGNWRITING ROTATION:MODIFIER-2,MODIFIER-3,MODIFIER-4,MODIFIER-5",
      "MODIFIER-6,MODIFIER-7,MODIFIER-8,MODIFIER-9,MODIFIER-10,MODIFIER-11,MODIFIER-12,MODIFIER-13",
      "MODIFIER-14,MODIFIER-15,MODIFIER-16"]⟩,
    ⟨0x1df00, 0x1df10, ["LATIN:SMALL LETTER FENG DIGRAPH WITH TRILL,SMALL LETTER REVERSED SCRIPT G",
      "LETTER SMALL CAPITAL TURNED G,SMALL LETTER REVERSED K,LETTER SMALL CAPITAL L WITH BELT",
      "SMALL LETTER LEZH WITH RETROFLEX HOOK,SMALL LETTER TURNED Y WITH BELT",
      "SMALL LETTER REVERSED ENG,SMALL LETTER TURNED R WITH LONG LEG AND RETROFLEX HOOK",
      "SMALL LETTER T WITH HOOK AND RETROFLEX HOOK,LETTER RETROFLEX CLICK WITH RETROFLEX HOOK",
      "SMALL LETTER ESH WITH DOUBLE BAR,SMALL LETTER ESH WITH DOUBLE BAR AND CURL",
      "SMALL LETTER TURNED T WITH CURL,LETTER INVERTED GLOTTAL STOP WITH CURL",
      "LETTER STRETCHED C WITH CURL,LETTER SMALL CAPITAL TURNED K"]⟩,
    ⟨0x1df11, 0x1df1e, ["LATIN SMALL LETTER:L WITH FISHHOOK,DEZH DIGRAPH WITH PALATAL HOOK",
      "L WITH BELT AND PALATAL HOOK,ENG WITH PALATAL HOOK,TURNED R WITH PALATAL HOOK",
      "R WITH FISHHOOK AND PALATAL HOOK,TESH DIGRAPH WITH PALATAL HOOK,EZH WITH PALATAL HOOK",
      "DEZH DIGRAPH WITH RETROFLEX HOOK,I WITH STROKE AND RETROFLEX HOOK,O WITH RETROFLEX HOOK",
      "TESH DIGRAPH WITH RETROFLEX HOOK,C WITH RETROFLEX HOOK,S WITH CURL"]⟩,
    ⟨0x1e000, 0x1e006, ["COMBINING GLAGOLITIC LETTER:AZU,BUKY,VEDE,GLAGOLI,DOBRO,YESTU,ZHIVETE"]⟩,
    ⟨0x1e008, 0x1e018, ["COMBINING GLAGOLITIC LETTER:ZEMLJA,IZHE,INITIAL IZHE,I,DJERVI,KAKO",
      "LJUDIJE,MYSLITE,NASHI,ONU,POKOJI,RITSI,SLOVO,TVRIDO,UKU,FRITU,HERU"]⟩,
    ⟨0x1e01b, 0x1e021, ["COMBINING GLAGOLITIC LETTER:SHTA,TSI,CHRIVI,SHA,YERU,YERI,YATI"]⟩,
    ⟨0x1e023, 0x1e024, ["COMBINING GLAGOLITIC LETTER:YU,SMALL YUS"]⟩,
    ⟨0x1e026, 0x1e02a, ["COMBINING GLAGOLITIC LETTER:YO,IOTATED SMALL YUS,BIG YUS,IOTATED BIG YUS",
      "FITA"]⟩,
    ⟨0x1e100, 0x1e12c, ["NYIAKENG PUACHUE HMONG LETTER:MA,TSA,NTA,TA,HA,NA,XA,NKA,CA,LA,SA,ZA,NCA",
      "NTSA,KA,DA,NYA,NRA,VA,NTXA,TXA,FA,RA,QA,YA,NQA,PA,XYA,NPA,DLA,NPLA,HAH,MLA,PLA,GA,RRA,A,AA",
      "I,U,O,OO,E,EE,W"]⟩,
    ⟨0x1e130, 0x1e13d, ["NYIAKENG PUACHUE HMONG:TONE-B,TONE-M,TONE-J,TONE-V,TONE-S,TONE-G,TONE-D",
      "SIGN FOR PERSON,SIGN FOR THING,SIGN FOR LOCATION,SIGN FOR ANIMAL,SIGN FOR INVERTEBRATE",
      "SIGN XW XW,SYLLABLE LENGTHENER"]⟩,
    ⟨0x1e140, 0x1e149, ["NYIAKENG PUACHUE HMONG DIGIT:ZERO,ONE,TWO,THREE,FOUR,FIVE,SIX,SEVEN,EIGHT",
      "NINE"]⟩,
    ⟨0x1e14e, 0x1e14f, ["NYIAKENG PUACHUE HMONG:LOGOGRAM NYAJ,CIRCLED CA"]⟩,
    ⟨0x1e290, 0x1e2ad, ["TOTO LETTER:PA,BA,TA,DA,KA,GA,MA,NA,NGA,SA,CHA,YA,WA,JA,HA,RA,LA,I",
      "BREATHY I,IU,BREATHY IU,U,E,BREATHY E,EO,BREATHY EO,O,AE,BREATHY AE,A"]⟩,
    ⟨0x1e2ae, 0x1e2ae, [":TOTO SIGN RISING TONE"]⟩,
    ⟨0x1e2c0, 0x1e2eb, ["WANCHO LETTER:AA,A,BA,CA,DA,GA,YA,PHA,LA,NA,PA,TA,THA,FA,SA,SHA,JA,ZA,WA",
      "VA,KA,O,AU,RA,MA,KHA,HA,E,I,NGA,U,LLHA,TSA,TRA,ONG,AANG,ANG,ING,ON,EN,AAN,NYA,UEN,YIH"]⟩,
    ⟨0x1e2ec, 0x1e2ef, ["WANCHO TONE:TUP,TUPNI,KOI,KOINI"]⟩,
    ⟨0x1e2f0, 0x1e2f9, ["WANCHO DIGIT:ZERO,ONE,TWO,THREE,FOUR,FIVE,SIX,SEVEN,EIGHT,NINE"]⟩,
    ⟨0x1e2ff, 0x1e2ff, [":WANCHO NGUN SIGN"]⟩,
    ⟨0x1e7e0, 0x1e7e6, ["ETHIOPIC SYLLABLE:HHYA,HHYU,HHYI,HHYAA,HHYEE,HHYE,HHYO"]⟩,
    ⟨0x1e7e8, 0x1e7eb, ["ETHIOPIC SYLLABLE:GURAGE HHWA,HHWI,HHWEE,HHWE"]⟩,
    ⟨0x1e7ed, 0x1e7ee, ["ETHIOPIC SYLLABLE GURAGE:MWI,MWEE"]⟩,
    ⟨0x1e7f0, 0x1e7fe, ["ETHIOPIC SYLLABLE GURAGE:QWI,QWEE,QWE,BWI,BWEE,KWI,KWEE,KWE,GWI,GWEE,GWE",
      "FWI,FWEE,PWI,PWEE"]⟩,
    ⟨0x1e800, 0x1e8c4, ["MENDE KIKAKUI SYLLABLE:M001 KI,M002 KA,M003 KU,M065 KEE,M095 KE,M076 KOO",
      "M048 KO,M179 KUA,M004 WI,M005 WA,M006 WU,M126 WEE,M118 WE,M114 WOO,M045 WO,M194 WUI",
      "M143 WEI,M061 WVI,M049 WVA,M139 WVE,M007 MIN,M008 MAN,M009 MUN,M059 MEN,M094 MON,M154 MUAN",
      "M189 MUEN,M010 BI,M011 BA,M012 BU,M150 BEE,M097 BE,M103 BOO,M138 BO,M013 I,M014 A,M015 U",
      "M163 EE,M100 E,M165 OO,M147 O,M137 EI,M131 IN,M135 IN,M195 AN,M178 EN,M019 SI,M020 SA",
      "M021 SU,M162 SEE,M116 SE,M136 SOO,M079 SO,M196 SIA,M025 LI,M026 LA,M027 LU,M084 LEE,M073 LE",
      "M054 LOO,M153 LO,M110 LONG LE,M016 DI,M017 DA,M018 DU,M089 DEE,M180 DOO,M181 DO,M022 TI",
      "M023 TA,M024 TU,M091 TEE,M055 TE,M104 TOO,M069 TO,M028 JI,M029 JA,M030 JU,M157 JEE,M113 JE",
      "M160 JOO,M063 JO,M175 LONG JO,M031 YI,M032 YA,M033 YU,M109 YEE,M080 YE,M141 YOO,M121 YO",
      "M034 FI,M035 FA,M036 FU,M078 FEE,M075 FE,M133 FOO,M088 FO,M197 FUA,M101 FAN,M037 NIN",
      "M038 NAN,M039 NUN,M117 NEN,M169 NON,M176 HI,M041 HA,M186 HU,M040 HEE,M096 HE,M042 HOO",
      "M140 HO,M083 HEEI,M128 HOOU,M053 HIN,M130 HAN,M087 HUN,M052 HEN,M193 HON,M046 HUAN",
      "M090 NGGI,M043 NGGA,M082 NGGU,M115 NGGEE,M146 NGGE,M156 NGGOO,M120 NGGO,M159 NGGAA",
      "M127 NGGUA,M086 LONG NGGE,M106 LONG NGGOO,M183 LONG NGGO,M155 GI,M111 GA,M168 GU,M190 GEE",
      "M166 GUEI,M167 GUAN,M184 NGEN,M057 NGON,M177 NGUAN,M068 PI,M099 PA,M050 PU,M081 PEE,M051 PE",
      "M102 POO,M066 PO,M145 MBI,M062 MBA,M122 MBU,M047 MBEE,M188 MBEE,M072 MBE,M172 MBOO,M174 MBO",
      "M187 MBUU,M161 LONG MBE,M105 LONG MBOO,M142 LONG MBO,M132 KPI,M092 KPA,M074 KPU,M044 KPEE",
      "M108 KPE,M112 KPOO,M158 KPO,M124 GBI,M056 GBA,M148 GBU,M093 GBEE,M107 GBE,M071 GBOO",
      "M070 GBO,M171 RA,M123 NDI,M129 NDA,M125 NDU,M191 NDEE,M119 NDE,M067 NDOO,M064 NDO,M152 NJA",
      "M192 NJU,M149 NJEE,M134 NJOO,M182 VI,M185 VA,M151 VU,M173 VEE,M085 VE,M144 VOO,M077 VO",
      "M164 NYIN,M058 NYAN,M170 NYUN,M098 NYEN,M060 NYON"]⟩,
    ⟨0x1e8c7, 0x1e8cf, ["MENDE KIKAKUI DIGIT:ONE,TWO,THREE,FOUR,FIVE,SIX,SEVEN,EIGHT,NINE"]⟩,
    ⟨0x1e8d0, 0x1e8d6, ["MENDE KIKAKUI COMBINING NUMBER:TEENS,TENS,HUNDREDS,THOUSANDS",
      "TEN THOUSANDS,HUNDRED THOUSANDS,MILLIONS"]⟩,
    ⟨0x1e900, 0x1e921, ["ADLAM CAPITAL LETTER:ALIF,DAALI,LAAM,MIIM,BA,SINNYIIYHE,PE,BHE,RA,E,FA,I",
      "O,DHA,YHE,WAW,NUN,KAF,YA,U,JIIM,CHI,HA,QAAF,GA,NYA,TU,NHA,VA,KHA,GBE,ZAL,KPO,SHA"]⟩,
    ⟨0x1e922, 0x1e943, ["ADLAM SMALL LETTER:ALIF,DAALI,LAAM,MIIM,BA,SINNYIIYHE,PE,BHE,RA,E,FA,I,O",
      "DHA,YHE,WAW,NUN,KAF,YA,U,JIIM,CHI,HA,QAAF,GA,NYA,TU,NHA,VA,KHA,GBE,ZAL,KPO,SHA"]⟩,
    ⟨0x1e944, 0x1e94b, ["ADLAM:ALIF LENGTHENER,VOWEL LENGTHENER,GEMINATION MARK,HAMZA",
      "CONSONANT MODIFIER,GEMINATE CONSONANT MODIFIER,NUKTA,NASALIZATION MARK"]⟩,
    ⟨0x1e950, 0x1e959, ["ADLAM DIGIT:ZERO,ONE,TWO,THREE,FOUR,FIVE,SIX,SEVEN,EIGHT,NINE"]⟩,
    ⟨0x1e95e, 0x1e95f, ["ADLAM INITIAL:EXCLAMATION MARK,QUESTION MARK"]⟩,
    ⟨0x1ec71, 0x1ec9f, ["INDIC SIYAQ NUMBER:ONE,TWO,THREE,FOUR,FIVE,SIX,SEVEN,EIGHT,NINE,TEN",
      "TWENTY,THIRTY,FORTY,FIFTY,SIXTY,SEVENTY,EIGHTY,NINETY,ONE HUNDRED,TWO HUNDRED,THREE HUNDRED",
      "FOUR HUNDRED,FIVE HUNDRED,SIX HUNDRED,SEVEN HUNDRED,EIGHT HUNDRED,NINE HUNDRED,ONE THOUSAND",
      "TWO THOUSAND,THREE THOUSAND,FOUR THOUSAND,FIVE THOUSAND,SIX THOUSAND,SEVEN THOUSAND",
      "EIGHT THOUSAND,NINE THOUSAND,TEN THOUSAND,TWENTY THOUSAND,THIRTY THOUSAND,FORTY THOUSAND",
      "FIFTY THOUSAND,SIXTY THOUSAND,SEVENTY THOUSAND,EIGHTY THOUSAND,NINETY THOUSAND,LAKH",
      "LAKHAN"]⟩,
    ⟨0x1eca0, 0x1ecb4, ["INDIC SIYAQ:LAKH MARK,NUMBER KAROR,NUMBER KARORAN,NUMBER PREFIXED ONE",
      "NUMBER PREFIXED TWO,NUMBER PREFIXED THREE,NUMBER PREFIXED FOUR,NUMBER PREFIXED FIVE",
      "NUMBER PREFIXED SIX,NUMBER PREFIXED SEVEN,NUMBER PREFIXED EIGHT,NUMBER PREFIXED NINE",
      "PLACEHOLDER,FRACTION ONE QUARTER,FRACTION ONE HALF,FRACTION THREE QUARTERS,RUPEE MARK",
      "NUMBER ALTERNATE ONE,NUMBER ALTERNATE TWO,NUMBER ALTERNATE TEN THOUSAND",
      "ALTERNATE LAKH MARK"]⟩,
    ⟨0x1ed01, 0x1ed2d, ["OTTOMAN SIYAQ NUMBER:ONE,TWO,THREE,FOUR,FIVE,SIX,SEVEN,EIGHT,NINE,TEN",
      "TWENTY,THIRTY,FORTY,FIFTY,SIXTY,SEVENTY,EIGHTY,NINETY,ONE HUNDRED,TWO HUNDRED,THREE HUNDRED",
      "FOUR HUNDRED,FIVE HUNDRED,SIX HUNDRED,SEVEN HUNDRED,EIGHT HUNDRED,NINE HUNDRED,ONE THOUSAND",
      "TWO THOUSAND,THREE THOUSAND,FOUR THOUSAND,FIVE THOUSAND,SIX THOUSAND,SEVEN THOUSAND",
      "EIGHT THOUSAND,NINE THOUSAND,TEN THOUSAND,TWENTY THOUSAND,THIRTY THOUSAND,FORTY THOUSAND",
      "FIFTY THOUSAND,SIXTY THOUSAND,SEVENTY THOUSAND,EIGHTY THOUSAND,NINETY THOUSAND"]⟩,
    ⟨0x1ed2e, 0x1ed2e, [":OTTOMAN SIYAQ MARRATAN"]⟩,
    ⟨0x1ed2f, 0x1ed3b, ["OTTOMAN SIYAQ ALTERNATE NUMBER:TWO,THREE,FOUR,FIVE,SIX,SEVEN,EIGHT,NINE",
      "TEN,FOUR HUNDRED,SIX HUNDRED,TWO THOUSAND,TEN THOUSAND"]⟩,
    ⟨0x1ed3c, 0x1ed3d, ["OTTOMAN SIYAQ FRACTION ONE:HALF,SIXTH"]⟩,
    ⟨0x1ee00, 0x1ee03, ["ARABIC MATHEMATICAL:ALEF,BEH,JEEM,DAL"]⟩,
    ⟨0x1ee05, 0x1ee1f, ["ARABIC MATHEMATICAL:WAW,ZAIN,HAH,TAH,YEH,KAF,LAM,MEEM,NOON,SEEN,AIN,FEH",
      "SAD,QAF,REH,SHEEN,TEH,THEH,KHAH,THAL,DAD,ZAH,GHAIN,DOTLESS BEH,DOTLESS NOON,DOTLESS FEH",
      "DOTLESS QAF"]⟩,
    ⟨0x1ee21, 0x1ee22, ["ARABIC MATHEMATICAL INITIAL:BEH,JEEM"]⟩,
    ⟨0x1ee24, 0x1ee24, [":ARABIC MATHEMATICAL INITIAL HEH"]⟩,
    ⟨0x1ee27, 0x1ee27, [":ARABIC MATHEMATICAL INITIAL HAH"]⟩,
    ⟨0x1ee29, 0x1ee32, ["ARABIC MATHEMATICAL INITIAL:YEH,KAF,LAM,MEEM,NOON,SEEN,AIN,FEH,SAD,QAF"]⟩,
    ⟨0x1ee34, 0x1ee37, ["ARABIC MATHEMATICAL INITIAL:SHEEN,TEH,THEH,KHAH"]⟩,
    ⟨0x1ee39, 0x1ee39, [":ARABIC MATHEMATICAL INITIAL DAD"]⟩,
    ⟨0x1ee3b, 0x1ee3b, [":ARABIC MATHEMATICAL INITIAL GHAIN"]⟩,
    ⟨0x1ee42, 0x1ee42, [":ARABIC MATHEMATICAL TAILED JEEM"]⟩,
    ⟨0x1ee47, 0x1ee47, [":ARABIC MATHEMATICAL TAILED HAH"]⟩,
    ⟨0x1ee49, 0x1ee49, [":ARABIC MATHEMATICAL TAILED YEH"]⟩,
    ⟨0x1ee4b, 0x1ee4b, [":ARABIC MATHEMATICAL TAILED LAM"]⟩,
    ⟨0x1ee4d, 0x1ee4f, ["ARABIC MATHEMATICAL TAILED:NOON,SEEN,AIN"]⟩,
    ⟨0x1ee51, 0x1ee52, ["ARABIC MATHEMATICAL TAILED:SAD,QAF"]⟩,
    ⟨0x1ee54, 0x1ee54, [":ARABIC MATHEMATICAL TAILED SHEEN"]⟩,
    ⟨0x1ee57, 0x1ee57, [":ARABIC MATHEMATICAL TAILED KHAH"]⟩,
    ⟨0x1ee59, 0x1ee59, [":ARABIC MATHEMATICAL TAILED DAD"]⟩,
    ⟨0x1ee5b, 0x1ee5b, [":ARABIC MATHEMATICAL TAILED GHAIN"]⟩,
    ⟨0x1ee5d, 0x1ee5d, [":ARABIC MATHEMATICAL TAILED DOTLESS NOON"]⟩,
    ⟨0x1ee5f, 0x1ee5f, [":ARABIC MATHEMATICAL TAILED DOTLESS QAF"]⟩,
    ⟨0x1ee61, 0x1ee62, ["ARABIC MATHEMATICAL STRETCHED:BEH,JEEM"]⟩,
    ⟨0x1ee64, 0x1ee64, [":ARABIC MATHEMATICAL STRETCHED HEH"]⟩,
    ⟨0x1ee67, 0x1ee6a, ["ARABIC MATHEMATICAL STRETCHED:HAH,TAH,YEH,KAF"]⟩,
    ⟨0x1ee6c, 0x1ee72, ["ARABIC MATHEMATICAL STRETCHED:MEEM,NOON,SEEN,AIN,FEH,SAD,QAF"]⟩,
    ⟨0x1ee74, 0x1ee77, ["ARABIC MATHEMATICAL STRETCHED:SHEEN,TEH,THEH,KHAH"]⟩,
    ⟨0x1ee79, 0x1ee7c, ["ARABIC MATHEMATICAL STRETCHED:DAD,ZAH,GHAIN,DOTLESS BEH"]⟩,
    ⟨0x1ee7e, 0x1ee7e, [":ARABIC MATHEMATICAL STRETCHED DOTLESS FEH"]⟩,
    ⟨0x1ee80, 0x1ee89, ["ARABIC MATHEMATICAL LOOPED:ALEF,BEH,JEEM,DAL,HEH,WAW,ZAIN,HAH,TAH,YEH"]⟩,
    ⟨0x1ee8b, 0x1ee9b, ["ARABIC MATHEMATICAL LOOPED:LAM,MEEM,NOON,SEEN,AIN,FEH,SAD,QAF,REH,SHEEN",
      "TEH,THEH,KHAH,THAL,DAD,ZAH,GHAIN"]⟩,
    ⟨0x1eea1, 0x1eea3, ["ARABIC MATHEMATICAL DOUBLE-STRUCK:BEH,JEEM,DAL"]⟩,
    ⟨0x1eea5, 0x1eea9, ["ARABIC MATHEMATICAL DOUBLE-STRUCK:WAW,ZAIN,HAH,TAH,YEH"]⟩,
    ⟨0x1eeab, 0x1eebb, ["ARABIC MATHEMATICAL DOUBLE-STRUCK:LAM,MEEM,NOON,SEEN,AIN,FEH,SAD,QAF,REH",
      "SHEEN,TEH,THEH,KHAH,THAL,DAD,ZAH,GHAIN"]⟩,
    ⟨0x1eef0, 0x1eef1, ["ARABIC MATHEMATICAL OPERATOR:MEEM WITH HAH WITH TATWEEL,HAH WITH DAL"]⟩]

end CellWidth.Unicode.NameRun
