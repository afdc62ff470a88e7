/-!
# Names of characters: punctuation, symbols and operators

Rows of names of consecutive code points, each row with its first code point. A name
is written as a mark and a tail: the mark says how many characters it shares with the
name before it.
-/

set_option autoImplicit false

namespace DocBraces.Text

def symbolsNames : List (Nat × String) :=
  [(0x2000, "aEN QUADbM QUADbN SPACEbM SPACEaTHREE-PER-EM SPACEaFOUR-PER-EM SPACE
aSIX-PER-EM SPACEaFIGURE SPACEaPUNCTUATION SPACEaTHIN SPACEaHAIR SPACEaZERO WIDTH SPACE
lNON-JOINERlJOINERaLEFT-TO-RIGHT MARKaRIGHT-TO-LEFT MARKaHYPHENaNON-BREAKING HYPHENaFIGURE DASH
aEN DASHbM DASHaHORIZONTAL BARaDOUBLE VERTICAL LINEhLOW LINEaLEFT SINGLE QUOTATION MARK
aRIGHT SINGLE QUOTATION MARKaSINGLE LOW-9 QUOTATION MARKhHIGH-REVERSED-9 QUOTATION MARK
aLEFT DOUBLE QUOTATION MARKaRIGHT DOUBLE QUOTATION MARKaDOUBLE LOW-9 QUOTATION MARK
hHIGH-REVERSED-9 QUOTATION MARKbAGGERbOUBLE DAGGERaBULLETaTRIANGULAR BULLETaONE DOT LEADER
aTWO DOT LEADERaHORIZONTAL ELLIPSISbYPHENATION POINTaLINE SEPARATORaPARAGRAPH SEPARATOR
aLEFT-TO-RIGHT EMBEDDINGaRIGHT-TO-LEFT EMBEDDINGaPOP DIRECTIONAL FORMATTING
aLEFT-TO-RIGHT OVERRIDEaRIGHT-TO-LEFT OVERRIDEaNARROW NO-BREAK SPACEaPER MILLE SIGN
eTEN THOUSAND SIGNbRIMEaDOUBLE PRIMEaTRIPLE PRIMEaREVERSED PRIMEjDOUBLE PRIMEjTRIPLE PRIMEaCARET
aSINGLE LEFT-POINTING ANGLE QUOTATION MARKhRIGHT-POINTING ANGLE QUOTATION MARKaREFERENCE MARK
aDOUBLE EXCLAMATION MARKaINTERROBANGaOVERLINEaUNDERTIEaCHARACTER TIEbARET INSERTION POINT
aASTERISMaHYPHEN BULLETaFRACTION SLASHaLEFT SQUARE BRACKET WITH QUILL
aRIGHT SQUARE BRACKET WITH QUILLaDOUBLE QUESTION MARKaQUESTION EXCLAMATION MARK
aEXCLAMATION QUESTION MARKaTIRONIAN SIGN ETaREVERSED PILCROW SIGNaBLACK LEFTWARDS BULLET
gRIGHTWARDS BULLETaLOW ASTERISKaREVERSED SEMICOLONaCLOSE UPaTWO ASTERISKS ALIGNED VERTICALLY
aCOMMERCIAL MINUS SIGNaSWUNG DASHaINVERTED UNDERTIEaFLOWER PUNCTUATION MARKaTHREE DOT PUNCTUATION
aQUADRUPLE PRIMEaFOUR DOT PUNCTUATIONbIVE DOT PUNCTUATIONaTWO DOT PUNCTUATIONaFOUR DOT MARK
aDOTTED CROSSaTRICOLONaVERTICAL FOUR DOTSaMEDIUM MATHEMATICAL SPACEaWORD JOINER
aFUNCTION APPLICATIONaINVISIBLE TIMESkSEPARATORkPLUS"),
   (0x2066, "aLEFT-TO-RIGHT ISOLATEaRIGHT-TO-LEFT ISOLATEaFIRST STRONG ISOLATE
aPOP DIRECTIONAL ISOLATEaINHIBIT SYMMETRIC SWAPPINGaACTIVATE SYMMETRIC SWAPPING
aINHIBIT ARABIC FORM SHAPINGaACTIVATE ARABIC FORM SHAPINGaNATIONAL DIGIT SHAPES
bOMINAL DIGIT SHAPESaSUPERSCRIPT ZEROmLATIN SMALL LETTER I"),
   (0x2074, "aSUPERSCRIPT FOURnIVEmSIXnEVENmEIGHTmNINEmPLUS SIGNmMINUSmEQUALS SIGN
mLEFT PARENTHESISmRIGHT PARENTHESISmLATIN SMALL LETTER NcBSCRIPT ZEROkONEkTWOlHREEkFOURlIVEkSIX
lEVENkEIGHTkNINEkPLUS SIGNkMINUSkEQUALS SIGNkLEFT PARENTHESISkRIGHT PARENTHESIS"),
   (0x2090, "aLATIN SUBSCRIPT SMALL LETTER AδEδOδXδSCHWAδHδKδLδMδNδPδSδT"),
   (0x20A0, "aEURO-CURRENCY SIGNaCOLON SIGNbRUZEIRO SIGNaFRENCH FRANC SIGNaLIRA SIGNaMILL SIGN
aNAIRA SIGNaPESETA SIGNaRUPEE SIGNaWON SIGNaNEW SHEQEL SIGNaDONG SIGNaEURO SIGNaKIP SIGN
aTUGRIK SIGNaDRACHMA SIGNaGERMAN PENNY SIGNaPESO SIGNaGUARANI SIGNaAUSTRAL SIGNaHRYVNIA SIGN
aCEDI SIGNaLIVRE TOURNOIS SIGNaSPESMILO SIGNaTENGE SIGNaINDIAN RUPEE SIGNaTURKISH LIRA SIGN
aNORDIC MARK SIGNaMANAT SIGNaRUBLE SIGNaLARI SIGNaBITCOIN SIGNaSOM SIGN"),
   (0x20D0, "aCOMBINING LEFT HARPOON ABOVEkRIGHT HARPOON ABOVEkLONG VERTICAL LINE OVERLAY
kSHORT VERTICAL LINE OVERLAYkANTICLOCKWISE ARROW ABOVEkCLOCKWISE ARROW ABOVEkLEFT ARROW ABOVE
kRIGHT ARROW ABOVEmNG OVERLAYkCLOCKWISE RING OVERLAYkANTICLOCKWISE RING OVERLAYkTHREE DOTS ABOVE
kFOUR DOTS ABOVEkENCLOSING CIRCLEuSQUAREuDIAMONDuCIRCLE BACKSLASHkLEFT RIGHT ARROW ABOVE
kENCLOSING SCREENuKEYCAPuUPWARD POINTING TRIANGLEkREVERSE SOLIDUS OVERLAY
kDOUBLE VERTICAL STROKE OVERLAYkANNUITY SYMBOLkTRIPLE UNDERDOTkWIDE BRIDGE ABOVE
kLEFTWARDS ARROW OVERLAYlONG DOUBLE SOLIDUS OVERLAYkRIGHTWARDS HARPOON WITH BARB DOWNWARDS
kLEFTWARDS HARPOON WITH BARB DOWNWARDSo ARROW BELOWkRIGHT ARROW BELOWkASTERISK ABOVE"),
   (0x2100, "aACCOUNT OFbDDRESSED TO THE SUBJECTaDOUBLE-STRUCK CAPITAL CbEGREE CELSIUS
aCENTRE LINE SYMBOLbARE OFcDA UNAaEULER CONSTANTaSCRUPLEaDEGREE FAHRENHEITaSCRIPT SMALL G
hCAPITAL HaBLACK-LETTER CAPITAL HaDOUBLE-STRUCK CAPITAL HaPLANCK CONSTANTp OVER TWO PI
aSCRIPT CAPITAL IaBLACK-LETTER CAPITAL IaSCRIPT CAPITAL LhSMALL LaL B BAR SYMBOL
aDOUBLE-STRUCK CAPITAL NaNUMERO SIGNaSOUND RECORDING COPYRIGHTbCRIPT CAPITAL P
aDOUBLE-STRUCK CAPITAL PwQaSCRIPT CAPITAL RaBLACK-LETTER CAPITAL RaDOUBLE-STRUCK CAPITAL R
aPRESCRIPTION TAKEaRESPONSEaSERVICE MARKaTELEPHONE SIGNbRADE MARK SIGNaVERSICLE
aDOUBLE-STRUCK CAPITAL ZaOUNCE SIGNbHM SIGNaINVERTED OHM SIGNaBLACK-LETTER CAPITAL Z
aTURNED GREEK SMALL LETTER IOTAaKELVIN SIGNaANGSTROM SIGNaSCRIPT CAPITAL BaBLACK-LETTER CAPITAL C
aESTIMATED SYMBOLaSCRIPT SMALL EhCAPITAL EpFaTURNED CAPITAL FaSCRIPT CAPITAL MhSMALL O
aALEF SYMBOLaBET SYMBOLaGIMEL SYMBOLaDALET SYMBOLaINFORMATION SOURCEaROTATED CAPITAL Q
aFACSIMILE SIGNaDOUBLE-STRUCK SMALL PIuGAMMAoCAPITAL GAMMAwPIoN-ARY SUMMATION
aTURNED SANS-SERIF CAPITAL GαLaREVERSED SANS-SERIF CAPITAL LaTURNED SANS-SERIF CAPITAL Y
aDOUBLE-STRUCK ITALIC CAPITAL DvSMALL DβEβIβJaPROPERTY LINEaTURNED AMPERSANDaPER SIGN
aAKTIESELSKABaTURNED SMALL FaSYMBOL FOR SAMARITAN SOURCEaVULGAR FRACTION ONE SEVENTHuNINTHuTENTH
vHIRDqTWO THIRDSqONE FIFTHqTWO FIFTHSrHREE FIFTHSqFOUR FIFTHSqONE SIXTHqFIVE SIXTHSqONE EIGHTH
qTHREE EIGHTHSqFIVE EIGHTHSqSEVEN EIGHTHSaFRACTION NUMERATOR ONEaROMAN NUMERAL ONEoTWOpHREEoFOUR
pIVEoSIXpEVENoEIGHToNINEoTENoELEVENoTWELVEoFIFTYoONE HUNDREDoFIVE HUNDREDoONE THOUSAND
aSMALL ROMAN NUMERAL ONEuTWOvHREEuFOURvIVEuSIXvEVENuEIGHTuNINEuTENuELEVENuTWELVEuFIFTY
uONE HUNDREDuFIVE HUNDREDuONE THOUSANDaROMAN NUMERAL ONE THOUSAND C DoFIVE THOUSANDoTEN THOUSAND
oREVERSED ONE HUNDREDaLATIN SMALL LETTER REVERSED CaROMAN NUMERAL SIX LATE FORMoFIFTY EARLY FORM
uTHOUSANDoONE HUNDRED THOUSANDaVULGAR FRACTION ZERO THIRDSaTURNED DIGIT TWOoHREE"),
   (0x2190, "aLEFTWARDS ARROWaUPWARDS ARROWaRIGHTWARDS ARROWaDOWNWARDS ARROWaLEFT RIGHT ARROW
aUP DOWN ARROWaNORTH WEST ARROWgEAST ARROWaSOUTH EAST ARROWgWEST ARROW
aLEFTWARDS ARROW WITH STROKEaRIGHTWARDS ARROW WITH STROKEaLEFTWARDS WAVE ARROW
aRIGHTWARDS WAVE ARROWaLEFTWARDS TWO HEADED ARROWaUPWARDS TWO HEADED ARROW
aRIGHTWARDS TWO HEADED ARROWaDOWNWARDS TWO HEADED ARROWaLEFTWARDS ARROW WITH TAIL
aRIGHTWARDS ARROW WITH TAILaLEFTWARDS ARROW FROM BARaUPWARDS ARROW FROM BAR
aRIGHTWARDS ARROW FROM BARaDOWNWARDS ARROW FROM BARaUP DOWN ARROW WITH BASE
aLEFTWARDS ARROW WITH HOOKaRIGHTWARDS ARROW WITH HOOKaLEFTWARDS ARROW WITH LOOP
aRIGHTWARDS ARROW WITH LOOPaLEFT RIGHT WAVE ARROWlARROW WITH STROKEaDOWNWARDS ZIGZAG ARROW
aUPWARDS ARROW WITH TIP LEFTWARDSxRIGHTWARDSaDOWNWARDS ARROW WITH TIP LEFTWARDSzRIGHTWARDS
aRIGHTWARDS ARROW WITH CORNER DOWNWARDSaDOWNWARDS ARROW WITH CORNER LEFTWARDS
aANTICLOCKWISE TOP SEMICIRCLE ARROWaCLOCKWISE TOP SEMICIRCLE ARROWaNORTH WEST ARROW TO LONG BAR
aLEFTWARDS ARROW TO BAR OVER RIGHTWARDS ARROW TO BARaANTICLOCKWISE OPEN CIRCLE ARROW
aCLOCKWISE OPEN CIRCLE ARROWaLEFTWARDS HARPOON WITH BARB UPWARDSγDOWNWARDS
aUPWARDS HARPOON WITH BARB RIGHTWARDSαLEFTWARDSaRIGHTWARDS HARPOON WITH BARB UPWARDSδDOWNWARDS
aDOWNWARDS HARPOON WITH BARB RIGHTWARDSγLEFTWARDSaRIGHTWARDS ARROW OVER LEFTWARDS ARROW
aUPWARDS ARROW LEFTWARDS OF DOWNWARDS ARROWaLEFTWARDS ARROW OVER RIGHTWARDS ARROWkPAIRED ARROWS
aUPWARDS PAIRED ARROWSaRIGHTWARDS PAIRED ARROWSaDOWNWARDS PAIRED ARROWS
aLEFTWARDS HARPOON OVER RIGHTWARDS HARPOONaRIGHTWARDS HARPOON OVER LEFTWARDS HARPOON
aLEFTWARDS DOUBLE ARROW WITH STROKEe RIGHT DOUBLE ARROW WITH STROKE
aRIGHTWARDS DOUBLE ARROW WITH STROKEaLEFTWARDS DOUBLE ARROWaUPWARDS DOUBLE ARROW
aRIGHTWARDS DOUBLE ARROWaDOWNWARDS DOUBLE ARROWaLEFT RIGHT DOUBLE ARROWaUP DOWN DOUBLE ARROW
aNORTH WEST DOUBLE ARROWgEAST DOUBLE ARROWaSOUTH EAST DOUBLE ARROWgWEST DOUBLE ARROW
aLEFTWARDS TRIPLE ARROWaRIGHTWARDS TRIPLE ARROWaLEFTWARDS SQUIGGLE ARROW
aRIGHTWARDS SQUIGGLE ARROWaUPWARDS ARROW WITH DOUBLE STROKEaDOWNWARDS ARROW WITH DOUBLE STROKE
aLEFTWARDS DASHED ARROWaUPWARDS DASHED ARROWaRIGHTWARDS DASHED ARROWaDOWNWARDS DASHED ARROW
aLEFTWARDS ARROW TO BARaRIGHTWARDS ARROW TO BARaLEFTWARDS WHITE ARROWaUPWARDS WHITE ARROW
aRIGHTWARDS WHITE ARROWaDOWNWARDS WHITE ARROWaUPWARDS WHITE ARROW FROM BARuON PEDESTAL
ζ WITH HORIZONTAL BARμVERTICAL BARoDOUBLE ARROWα ON PEDESTALaRIGHTWARDS WHITE ARROW FROM WALL
aNORTH WEST ARROW TO CORNERaSOUTH EAST ARROW TO CORNERaUP DOWN WHITE ARROW
aRIGHT ARROW WITH SMALL CIRCLEaDOWNWARDS ARROW LEFTWARDS OF UPWARDS ARROWaTHREE RIGHTWARDS ARROWS
aLEFTWARDS ARROW WITH VERTICAL STROKEaRIGHTWARDS ARROW WITH VERTICAL STROKE
aLEFT RIGHT ARROW WITH VERTICAL STROKEeWARDS ARROW WITH DOUBLE VERTICAL STROKE
aRIGHTWARDS ARROW WITH DOUBLE VERTICAL STROKEaLEFT RIGHT ARROW WITH DOUBLE VERTICAL STROKE
eWARDS OPEN-HEADED ARROWaRIGHTWARDS OPEN-HEADED ARROWaLEFT RIGHT OPEN-HEADED ARROWaFOR ALL
aCOMPLEMENTaPARTIAL DIFFERENTIALaTHERE EXISTSgDOES NOT EXISTaEMPTY SETaINCREMENTaNABLAaELEMENT OF
aNOT AN ELEMENT OFaSMALL ELEMENT OFaCONTAINS AS MEMBERaDOES NOT CONTAIN AS MEMBER
aSMALL CONTAINS AS MEMBERaEND OF PROOFaN-ARY PRODUCTgCOPRODUCTgSUMMATIONaMINUS SIGNf-OR-PLUS SIGN
aDOT PLUSbIVISION SLASHaSET MINUSaASTERISK OPERATORaRING OPERATORaBULLET OPERATORaSQUARE ROOT
aCUBE ROOTaFOURTH ROOTaPROPORTIONAL TOaINFINITYaRIGHT ANGLEaANGLEaMEASURED ANGLEaSPHERICAL ANGLE
aDIVIDESbOES NOT DIVIDEaPARALLEL TOaNOT PARALLEL TOaLOGICAL ANDiORaINTERSECTIONaUNIONaINTEGRAL
aDOUBLE INTEGRALaTRIPLE INTEGRALaCONTOUR INTEGRALaSURFACE INTEGRALaVOLUME INTEGRAL
aCLOCKWISE INTEGRALkCONTOUR INTEGRALaANTICLOCKWISE CONTOUR INTEGRALaTHEREFOREaBECAUSEaRATIO
aPROPORTIONaDOT MINUSaEXCESSaGEOMETRIC PROPORTIONaHOMOTHETICaTILDE OPERATORaREVERSED TILDE
aINVERTED LAZY SaSINE WAVEaWREATH PRODUCTaNOT TILDEaMINUS TILDEaASYMPTOTICALLY EQUAL TO
aNOT ASYMPTOTICALLY EQUAL TOaAPPROXIMATELY EQUAL TOoBUT NOT ACTUALLY EQUAL TO
aNEITHER APPROXIMATELY NOR ACTUALLY EQUAL TOaALMOST EQUAL TOaNOT ALMOST EQUAL TO
aALMOST EQUAL OR EQUAL TOaTRIPLE TILDEaALL EQUAL TOaEQUIVALENT TOaGEOMETRICALLY EQUIVALENT TO
aDIFFERENCE BETWEENaAPPROACHES THE LIMITaGEOMETRICALLY EQUAL TO
aAPPROXIMATELY EQUAL TO OR THE IMAGE OFaIMAGE OF OR APPROXIMATELY EQUAL TOaCOLON EQUALS
aEQUALS COLONaRING IN EQUAL TOfEQUAL TOaCORRESPONDS TOaESTIMATESbQUIANGULAR TOaSTAR EQUALS
aDELTA EQUAL TOaEQUAL TO BY DEFINITIONaMEASURED BYaQUESTIONED EQUAL TOaNOT EQUAL TOaIDENTICAL TO
aNOT IDENTICAL TOaSTRICTLY EQUIVALENT TOaLESS-THAN OR EQUAL TOaGREATER-THAN OR EQUAL TO
aLESS-THAN OVER EQUAL TOaGREATER-THAN OVER EQUAL TOaLESS-THAN BUT NOT EQUAL TO
aGREATER-THAN BUT NOT EQUAL TOaMUCH LESS-THANfGREATER-THANaBETWEENaNOT EQUIVALENT TOeLESS-THAN
eGREATER-THANbEITHER LESS-THAN NOR EQUAL TOiGREATER-THAN NOR EQUAL TOaLESS-THAN OR EQUIVALENT TO
aGREATER-THAN OR EQUIVALENT TOaNEITHER LESS-THAN NOR EQUIVALENT TOiGREATER-THAN NOR EQUIVALENT TO
aLESS-THAN OR GREATER-THANaGREATER-THAN OR LESS-THANaNEITHER LESS-THAN NOR GREATER-THAN
iGREATER-THAN NOR LESS-THANaPRECEDESaSUCCEEDSaPRECEDES OR EQUAL TOaSUCCEEDS OR EQUAL TO
aPRECEDES OR EQUIVALENT TOaSUCCEEDS OR EQUIVALENT TOaDOES NOT PRECEDEjSUCCEEDaSUBSET OFcPERSET OF
aNOT A SUBSET OFiPERSET OFaSUBSET OF OR EQUAL TOcPERSET OF OR EQUAL TO
aNEITHER A SUBSET OF NOR EQUAL TOmPERSET OF NOR EQUAL TOaSUBSET OF WITH NOT EQUAL TO
cPERSET OF WITH NOT EQUAL TOaMULTISETi MULTIPLICATIONjUNIONaSQUARE IMAGE OFhORIGINAL OF
hIMAGE OF OR EQUAL TOhORIGINAL OF OR EQUAL TOhCAPiUPaCIRCLED PLUSiMINUSiTIMESiDIVISION SLASH
jOT OPERATORiRING OPERATORiASTERISK OPERATORiEQUALSiDASHaSQUARED PLUSiMINUSiTIMESiDOT OPERATOR
aRIGHT TACKaLEFT TACKaDOWN TACKaUP TACKaASSERTIONaMODELSaTRUEaFORCES
aTRIPLE VERTICAL BAR RIGHT TURNSTILEaDOUBLE VERTICAL BAR DOUBLE RIGHT TURNSTILEcES NOT PROVE
aNOT TRUEaDOES NOT FORCEaNEGATED DOUBLE VERTICAL BAR DOUBLE RIGHT TURNSTILE
aPRECEDES UNDER RELATIONaSUCCEEDS UNDER RELATIONaNORMAL SUBGROUP OFaCONTAINS AS NORMAL SUBGROUP
aNORMAL SUBGROUP OF OR EQUAL TOaCONTAINS AS NORMAL SUBGROUP OR EQUAL TOaORIGINAL OFaIMAGE OF
aMULTIMAPaHERMITIAN CONJUGATE MATRIXaINTERCALATEaXORaNANDbORaRIGHT ANGLE WITH ARCgTRIANGLE
aN-ARY LOGICAL ANDoORgINTERSECTIONgUNIONaDIAMOND OPERATORbOT OPERATORaSTAR OPERATOR
aDIVISION TIMESaBOWTIEaLEFT NORMAL FACTOR SEMIDIRECT PRODUCT
aRIGHT NORMAL FACTOR SEMIDIRECT PRODUCTaLEFT SEMIDIRECT PRODUCTaRIGHT SEMIDIRECT PRODUCT
bEVERSED TILDE EQUALSaCURLY LOGICAL ORoANDaDOUBLE SUBSETjPERSEThINTERSECTIONhUNIONaPITCHFORK
aEQUAL AND PARALLEL TOaLESS-THAN WITH DOTaGREATER-THAN WITH DOTaVERY MUCH LESS-THANkGREATER-THAN
aLESS-THAN EQUAL TO OR GREATER-THANaGREATER-THAN EQUAL TO OR LESS-THANaEQUAL TO OR LESS-THAN
mGREATER-THANmPRECEDESmSUCCEEDSaDOES NOT PRECEDE OR EQUALjSUCCEED OR EQUAL
aNOT SQUARE IMAGE OF OR EQUAL TOlORIGINAL OF OR EQUAL TOaSQUARE IMAGE OF OR NOT EQUAL TO
hORIGINAL OF OR NOT EQUAL TOaLESS-THAN BUT NOT EQUIVALENT TOaGREATER-THAN BUT NOT EQUIVALENT TO
aPRECEDES BUT NOT EQUIVALENT TOaSUCCEEDS BUT NOT EQUIVALENT TOaNOT NORMAL SUBGROUP OF
aDOES NOT CONTAIN AS NORMAL SUBGROUPaNOT NORMAL SUBGROUP OF OR EQUAL TO
aDOES NOT CONTAIN AS NORMAL SUBGROUP OR EQUALaVERTICAL ELLIPSISaMIDLINE HORIZONTAL ELLIPSIS
aUP RIGHT DIAGONAL ELLIPSISaDOWN RIGHT DIAGONAL ELLIPSISaELEMENT OF WITH LONG HORIZONTAL STROKE
qVERTICAL BAR AT END OF HORIZONTAL STROKE
aSMALL ELEMENT OF WITH VERTICAL BAR AT END OF HORIZONTAL STROKEaELEMENT OF WITH DOT ABOVEqOVERBAR
aSMALL ELEMENT OF WITH OVERBARaELEMENT OF WITH UNDERBARqTWO HORIZONTAL STROKES
aCONTAINS WITH LONG HORIZONTAL STROKEoVERTICAL BAR AT END OF HORIZONTAL STROKE
aSMALL CONTAINS WITH VERTICAL BAR AT END OF HORIZONTAL STROKEaCONTAINS WITH OVERBAR
aSMALL CONTAINS WITH OVERBARaZ NOTATION BAG MEMBERSHIPaDIAMETER SIGNaELECTRIC ARROWaHOUSE
aUP ARROWHEADaDOWN ARROWHEADaPROJECTIVEbERSPECTIVEaWAVY LINEaLEFT CEILINGaRIGHT CEILING
aLEFT FLOORaRIGHT FLOORaBOTTOM RIGHT CROPhLEFT CROPaTOP RIGHT CROPeLEFT CROPaREVERSED NOT SIGN
aSQUARE LOZENGEaARCaSEGMENTcCTORaTELEPHONE RECORDERaPOSITION INDICATORaVIEWDATA SQUARE
aPLACE OF INTEREST SIGNaTURNED NOT SIGNaWATCHaHOURGLASSaTOP LEFT CORNEReRIGHT CORNER
aBOTTOM LEFT CORNERhRIGHT CORNERaTOP HALF INTEGRALaBOTTOM HALF INTEGRALaFROWNaSMILE
aUP ARROWHEAD BETWEEN TWO HORIZONTAL BARSaOPTION KEYaERASE TO THE RIGHTaX IN A RECTANGLE BOX
aKEYBOARDaLEFT-POINTING ANGLE BRACKETaRIGHT-POINTING ANGLE BRACKETaERASE TO THE LEFTaBENZENE RING
aCYLINDRICITYaALL AROUND-PROFILEaSYMMETRYaTOTAL RUNOUTaDIMENSION ORIGINaCONICAL TAPERaSLOPE
aCOUNTERBOREhSINKaAPL FUNCTIONAL SYMBOL I-BEAMwSQUISH QUADwQUAD EQUALβDIVIDEδAMONDβJOTβCIRCLE
wCIRCLE STILEδJOTwSLASH BARwBACKSLASH BARwQUAD SLASHβBACKSLASHβLESS-THANβGREATER-THAN
wLEFTWARDS VANEwRIGHTWARDS VANEwQUAD LEFTWARDS ARROWβRIGHTWARDS ARROWwCIRCLE BACKSLASH
wDOWN TACK UNDERBARxELTA STILEwQUAD DOWN CARETγELTAwDOWN TACK JOTwUPWARDS VANEwQUAD UPWARDS ARROW
wUP TACK OVERBARwDEL STILEwQUAD UP CARETβDELwUP TACK JOTwDOWNWARDS VANEwQUAD DOWNWARDS ARROW
yOTE UNDERBARwDELTA UNDERBARxIAMOND UNDERBARwJOT UNDERBARwCIRCLE UNDERBARwUP SHOE JOTwQUOTE QUAD
wCIRCLE STARwQUAD COLONwUP TACK DIAERESISwDEL DIAERESISwSTAR DIAERESISwJOT DIAERESIS
wCIRCLE DIAERESISwDOWN SHOE STILEwLEFT SHOE STILEwTILDE DIAERESISwGREATER-THAN DIAERESIS
wCOMMA BARwDEL TILDEwZILDEwSTILE TILDExEMICOLON UNDERBARwQUAD NOT EQUALβQUESTIONwDOWN CARET TILDE
wUP CARET TILDEwIOTAwRHOwOMEGAwALPHA UNDERBARwEPSILON UNDERBARwIOTA UNDERBARwOMEGA UNDERBARwALPHA
aNOT CHECK MARKaRIGHT ANGLE WITH DOWNWARDS ZIGZAG ARROWaSHOULDERED OPEN BOXaBELL SYMBOL
aVERTICAL LINE WITH MIDDLE DOTaINSERTION SYMBOLaCONTINUOUS UNDERLINE SYMBOL
aDISCONTINUOUS UNDERLINE SYMBOLaEMPHASIS SYMBOLaCOMPOSITION SYMBOL
aWHITE SQUARE WITH CENTRE VERTICAL LINEaENTER SYMBOLaALTERNATIVE KEY SYMBOLaHELM SYMBOL
aCIRCLED HORIZONTAL BAR WITH NOTCHiTRIANGLE DOWNaBROKEN CIRCLE WITH NORTHWEST ARROWaUNDO SYMBOL
aMONOSTABLE SYMBOLaHYSTERESIS SYMBOLaOPEN-CIRCUIT-OUTPUT H-TYPE SYMBOLuL-TYPE SYMBOL
aPASSIVE-PULL-DOWN-OUTPUT SYMBOLnUP-OUTPUT SYMBOLaDIRECT CURRENT SYMBOL FORM TWO
aSOFTWARE-FUNCTION SYMBOLaAPL FUNCTIONAL SYMBOL QUADaDECIMAL SEPARATOR KEY SYMBOLaPREVIOUS PAGE
aNEXT PAGEaPRINT SCREEN SYMBOLaCLEAR SCREEN SYMBOLaLEFT PARENTHESIS UPPER HOOKrEXTENSION
rLOWER HOOKaRIGHT PARENTHESIS UPPER HOOKsEXTENSIONsLOWER HOOKaLEFT SQUARE BRACKET UPPER CORNER
uEXTENSIONuLOWER CORNERaRIGHT SQUARE BRACKET UPPER CORNERvEXTENSIONvLOWER CORNER
aLEFT CURLY BRACKET UPPER HOOKtMIDDLE PIECEtLOWER HOOKaCURLY BRACKET EXTENSION
aRIGHT CURLY BRACKET UPPER HOOKuMIDDLE PIECEuLOWER HOOKaINTEGRAL EXTENSION
aHORIZONTAL LINE EXTENSIONaUPPER LEFT OR LOWER RIGHT CURLY BRACKET SECTION
gRIGHT OR LOWER LEFT CURLY BRACKET SECTIONaSUMMATION TOPkBOTTOMaTOP SQUARE BRACKET
aBOTTOM SQUARE BRACKETv OVER TOP SQUARE BRACKETaRADICAL SYMBOL BOTTOMaLEFT VERTICAL BOX LINE
aRIGHT VERTICAL BOX LINEaHORIZONTAL SCAN LINE-1v3v7v9
aDENTISTRY SYMBOL LIGHT VERTICAL AND TOP RIGHTλBOTTOM RIGHTηWITH CIRCLE
xDOWN AND HORIZONTAL WITH CIRCLExUP AND HORIZONTAL WITH CIRCLExVERTICAL WITH TRIANGLE
xDOWN AND HORIZONTAL WITH TRIANGLExUP AND HORIZONTAL WITH TRIANGLExVERTICAL AND WAVE
xDOWN AND HORIZONTAL WITH WAVExUP AND HORIZONTAL WITH WAVExDOWN AND HORIZONTALxUP AND HORIZONTAL
xVERTICAL AND TOP LEFTλBOTTOM LEFTaSQUARE FOOTaRETURN SYMBOLaEJECT SYMBOLaVERTICAL LINE EXTENSION
aMETRICAL BREVEjLONG OVER SHORTjSHORT OVER LONGjLONG OVER TWO SHORTSjTWO SHORTS OVER LONGuJOINED
kRISEMEkETRASEMEjPENTASEMEaEARTH GROUNDaFUSEaTOP PARENTHESISaBOTTOM PARENTHESISaTOP CURLY BRACKET
aBOTTOM CURLY BRACKETaTOP TORTOISE SHELL BRACKETaBOTTOM TORTOISE SHELL BRACKETaWHITE TRAPEZIUM
aBENZENE RING WITH CIRCLEaSTRAIGHTNESSaFLATNESSaAC CURRENTaELECTRICAL INTERSECTION
aDECIMAL EXPONENT SYMBOLaBLACK RIGHT-POINTING DOUBLE TRIANGLEgLEFT-POINTING DOUBLE TRIANGLE
gUP-POINTING DOUBLE TRIANGLEgDOWN-POINTING DOUBLE TRIANGLE
gRIGHT-POINTING DOUBLE TRIANGLE WITH VERTICAL BARgLEFT-POINTING DOUBLE TRIANGLE WITH VERTICAL BAR
gRIGHT-POINTING TRIANGLE WITH DOUBLE VERTICAL BARaALARM CLOCKaSTOPWATCHaTIMER CLOCK
aHOURGLASS WITH FLOWING SANDaBLACK MEDIUM LEFT-POINTING TRIANGLEnRIGHT-POINTING TRIANGLE
nUP-POINTING TRIANGLEnDOWN-POINTING TRIANGLEaDOUBLE VERTICAL BARaBLACK SQUARE FOR STOP
gCIRCLE FOR RECORDaPOWER SYMBOLgON-OFF SYMBOLi SYMBOLgSLEEP SYMBOLaOBSERVER EYE SYMBOL
aSYMBOL FOR NULLlSTART OF HEADINGuTEXTlEND OF TEXTtRANSMISSIONnQUIRYlACKNOWLEDGElBELLmACKSPACE
lHORIZONTAL TABULATIONlLINE FEEDlVERTICAL TABULATIONlFORM FEEDlCARRIAGE RETURNlSHIFT OUTrIN
lDATA LINK ESCAPEmEVICE CONTROL ONEαTWOβHREEαFOURlNEGATIVE ACKNOWLEDGElSYNCHRONOUS IDLE
lEND OF TRANSMISSION BLOCKlCANCELlEND OF MEDIUMlSUBSTITUTElESCAPElFILE SEPARATORlGROUP SEPARATOR
lRECORD SEPARATORlUNIT SEPARATORlSPACElDELETEaBLANK SYMBOLaOPEN BOXaSYMBOL FOR NEWLINE
lDELETE FORM TWOlSUBSTITUTE FORM TWO"),
   (0x2440, "aOCR HOOKeCHAIReFORKeINVERTED FORKeBELT BUCKLEfOW TIEfRANCH BANK IDENTIFICATION
eAMOUNT OF CHECKeDASHeCUSTOMER ACCOUNT NUMBEReDOUBLE BACKSLASH"),
   (0x2460, "aCIRCLED DIGIT ONEoTWOpHREEoFOURpIVEoSIXpEVENoEIGHToNINEiNUMBER TENpELEVENpTWELVE
qHIRTEENpFOURTEENqIFTEENpSIXTEENqEVENTEENpEIGHTEENpNINETEENpTWENTYaPARENTHESIZED DIGIT ONEuTWO
vHREEuFOURvIVEuSIXvEVENuEIGHTuNINEoNUMBER TENvELEVENvTWELVEwHIRTEENvFOURTEENwIFTEENvSIXTEEN
wEVENTEENvEIGHTEENvNINETEENvTWENTYaDIGIT ONE FULL STOPgTWO FULL STOPhHREE FULL STOP
gFOUR FULL STOPhIVE FULL STOPgSIX FULL STOPhEVEN FULL STOPgEIGHT FULL STOPgNINE FULL STOP
aNUMBER TEN FULL STOPhELEVEN FULL STOPhTWELVE FULL STOPiHIRTEEN FULL STOPhFOURTEEN FULL STOP
iIFTEEN FULL STOPhSIXTEEN FULL STOPiEVENTEEN FULL STOPhEIGHTEEN FULL STOPhNINETEEN FULL STOP
hTWENTY FULL STOPaPARENTHESIZED LATIN SMALL LETTER AθBθCθDθEθFθGθHθIθJθKθLθMθNθOθPθQθRθSθTθUθVθW
θXθYθZaCIRCLED LATIN CAPITAL LETTER AδBδCδDδEδFδGδHδIδJδKδLδMδNδOδPδQδRδSδTδUδVδWδXδYδZ
oSMALL LETTER AβBβCβDβEβFβGβHβIβJβKβLβMβNβOβPβQβRβSβTβUβVβWβXβYβZiDIGIT ZERO
aNEGATIVE CIRCLED NUMBER ELEVENyTWELVEzHIRTEENyFOURTEENzIFTEENySIXTEENzEVENTEENyEIGHTEENyNINETEEN
yTWENTYaDOUBLE CIRCLED DIGIT ONEvTWOwHREEvFOURwIVEvSIXwEVENvEIGHTvNINEpNUMBER TEN
aNEGATIVE CIRCLED DIGIT ZEROaBOX DRAWINGS LIGHT HORIZONTALnHEAVY HORIZONTALnLIGHT VERTICAL
nHEAVY VERTICALnLIGHT TRIPLE DASH HORIZONTALnHEAVY TRIPLE DASH HORIZONTAL
nLIGHT TRIPLE DASH VERTICALnHEAVY TRIPLE DASH VERTICALnLIGHT QUADRUPLE DASH HORIZONTAL
nHEAVY QUADRUPLE DASH HORIZONTALnLIGHT QUADRUPLE DASH VERTICALnHEAVY QUADRUPLE DASH VERTICAL
nLIGHT DOWN AND RIGHTnDOWN LIGHT AND RIGHT HEAVYsHEAVY AND RIGHT LIGHTnHEAVY DOWN AND RIGHT
nLIGHT DOWN AND LEFTnDOWN LIGHT AND LEFT HEAVYsHEAVY AND LEFT LIGHTnHEAVY DOWN AND LEFT
nLIGHT UP AND RIGHTnUP LIGHT AND RIGHT HEAVYqHEAVY AND RIGHT LIGHTnHEAVY UP AND RIGHT
nLIGHT UP AND LEFTnUP LIGHT AND LEFT HEAVYqHEAVY AND LEFT LIGHTnHEAVY UP AND LEFT
nLIGHT VERTICAL AND RIGHTnVERTICAL LIGHT AND RIGHT HEAVYnUP HEAVY AND RIGHT DOWN LIGHT
nDOWN HEAVY AND RIGHT UP LIGHTnVERTICAL HEAVY AND RIGHT LIGHTnDOWN LIGHT AND RIGHT UP HEAVY
nUP LIGHT AND RIGHT DOWN HEAVYnHEAVY VERTICAL AND RIGHTnLIGHT VERTICAL AND LEFT
nVERTICAL LIGHT AND LEFT HEAVYnUP HEAVY AND LEFT DOWN LIGHTnDOWN HEAVY AND LEFT UP LIGHT
nVERTICAL HEAVY AND LEFT LIGHTnDOWN LIGHT AND LEFT UP HEAVYnUP LIGHT AND LEFT DOWN HEAVY
nHEAVY VERTICAL AND LEFTnLIGHT DOWN AND HORIZONTALoEFT HEAVY AND RIGHT DOWN LIGHT
nRIGHT HEAVY AND LEFT DOWN LIGHTnDOWN LIGHT AND HORIZONTAL HEAVYsHEAVY AND HORIZONTAL LIGHT
nRIGHT LIGHT AND LEFT DOWN HEAVYnLEFT LIGHT AND RIGHT DOWN HEAVYnHEAVY DOWN AND HORIZONTAL
nLIGHT UP AND HORIZONTALoEFT HEAVY AND RIGHT UP LIGHTnRIGHT HEAVY AND LEFT UP LIGHT
nUP LIGHT AND HORIZONTAL HEAVYqHEAVY AND HORIZONTAL LIGHTnRIGHT LIGHT AND LEFT UP HEAVY
nLEFT LIGHT AND RIGHT UP HEAVYnHEAVY UP AND HORIZONTALnLIGHT VERTICAL AND HORIZONTAL
oEFT HEAVY AND RIGHT VERTICAL LIGHTnRIGHT HEAVY AND LEFT VERTICAL LIGHT
nVERTICAL LIGHT AND HORIZONTAL HEAVYnUP HEAVY AND DOWN HORIZONTAL LIGHT
nDOWN HEAVY AND UP HORIZONTAL LIGHTnVERTICAL HEAVY AND HORIZONTAL LIGHT
nLEFT UP HEAVY AND RIGHT DOWN LIGHTnRIGHT UP HEAVY AND LEFT DOWN LIGHT
nLEFT DOWN HEAVY AND RIGHT UP LIGHTnRIGHT DOWN HEAVY AND LEFT UP LIGHT
nDOWN LIGHT AND UP HORIZONTAL HEAVYnUP LIGHT AND DOWN HORIZONTAL HEAVY
nRIGHT LIGHT AND LEFT VERTICAL HEAVYnLEFT LIGHT AND RIGHT VERTICAL HEAVY
nHEAVY VERTICAL AND HORIZONTALnLIGHT DOUBLE DASH HORIZONTALnHEAVY DOUBLE DASH HORIZONTAL
nLIGHT DOUBLE DASH VERTICALnHEAVY DOUBLE DASH VERTICALnDOUBLE HORIZONTALuVERTICAL
pWN SINGLE AND RIGHT DOUBLEsDOUBLE AND RIGHT SINGLEpUBLE DOWN AND RIGHTpWN SINGLE AND LEFT DOUBLE
sDOUBLE AND LEFT SINGLEpUBLE DOWN AND LEFTnUP SINGLE AND RIGHT DOUBLEqDOUBLE AND RIGHT SINGLE
nDOUBLE UP AND RIGHTnUP SINGLE AND LEFT DOUBLEqDOUBLE AND LEFT SINGLEnDOUBLE UP AND LEFT
nVERTICAL SINGLE AND RIGHT DOUBLEwDOUBLE AND RIGHT SINGLEnDOUBLE VERTICAL AND RIGHT
nVERTICAL SINGLE AND LEFT DOUBLEwDOUBLE AND LEFT SINGLEnDOUBLE VERTICAL AND LEFT
pWN SINGLE AND HORIZONTAL DOUBLEsDOUBLE AND HORIZONTAL SINGLEpUBLE DOWN AND HORIZONTAL
nUP SINGLE AND HORIZONTAL DOUBLEqDOUBLE AND HORIZONTAL SINGLEnDOUBLE UP AND HORIZONTAL
nVERTICAL SINGLE AND HORIZONTAL DOUBLEwDOUBLE AND HORIZONTAL SINGLE
nDOUBLE VERTICAL AND HORIZONTALnLIGHT ARC DOWN AND RIGHTηLEFTxUP AND LEFTεRIGHT
tDIAGONAL UPPER RIGHT TO LOWER LEFTιLEFT TO LOWER RIGHTγCROSStLEFTtUPtRIGHTtDOWNnHEAVY LEFTtUP
tRIGHTtDOWNnLIGHT LEFT AND HEAVY RIGHTtUP AND HEAVY DOWNnHEAVY LEFT AND LIGHT RIGHT
tUP AND LIGHT DOWNaUPPER HALF BLOCKaLOWER ONE EIGHTH BLOCKkQUARTER BLOCKgTHREE EIGHTHS BLOCK
gHALF BLOCKgFIVE EIGHTHS BLOCKgTHREE QUARTERS BLOCKgSEVEN EIGHTHS BLOCKaFULL BLOCK
aLEFT SEVEN EIGHTHS BLOCKfTHREE QUARTERS BLOCKfFIVE EIGHTHS BLOCKfHALF BLOCKfTHREE EIGHTHS BLOCK
fONE QUARTER BLOCKjEIGHTH BLOCKaRIGHT HALF BLOCKaLIGHT SHADEaMEDIUM SHADEaDARK SHADE
aUPPER ONE EIGHTH BLOCKaRIGHT ONE EIGHTH BLOCKaQUADRANT LOWER LEFTpRIGHTjUPPER LEFT
t AND LOWER LEFT AND LOWER RIGHTεRIGHTyUPPER RIGHT AND LOWER LEFTυRIGHTpRIGHTu AND LOWER LEFT
κ AND LOWER RIGHTaBLACK SQUAREaWHITE SQUAREm WITH ROUNDED CORNERSnCONTAINING BLACK SMALL SQUARE
aSQUARE WITH HORIZONTAL FILLmVERTICAL FILLmORTHOGONAL CROSSHATCH FILL
mUPPER LEFT TO LOWER RIGHT FILLsRIGHT TO LOWER LEFT FILLmDIAGONAL CROSSHATCH FILL
aBLACK SMALL SQUAREaWHITE SMALL SQUAREaBLACK RECTANGLEaWHITE RECTANGLEaBLACK VERTICAL RECTANGLE
aWHITE VERTICAL RECTANGLEaBLACK PARALLELOGRAMaWHITE PARALLELOGRAMaBLACK UP-POINTING TRIANGLE
aWHITE UP-POINTING TRIANGLEaBLACK UP-POINTING SMALL TRIANGLEaWHITE UP-POINTING SMALL TRIANGLE
aBLACK RIGHT-POINTING TRIANGLEaWHITE RIGHT-POINTING TRIANGLEaBLACK RIGHT-POINTING SMALL TRIANGLE
aWHITE RIGHT-POINTING SMALL TRIANGLEaBLACK RIGHT-POINTING POINTERaWHITE RIGHT-POINTING POINTER
aBLACK DOWN-POINTING TRIANGLEaWHITE DOWN-POINTING TRIANGLEaBLACK DOWN-POINTING SMALL TRIANGLE
aWHITE DOWN-POINTING SMALL TRIANGLEaBLACK LEFT-POINTING TRIANGLEaWHITE LEFT-POINTING TRIANGLE
aBLACK LEFT-POINTING SMALL TRIANGLEaWHITE LEFT-POINTING SMALL TRIANGLE
aBLACK LEFT-POINTING POINTERaWHITE LEFT-POINTING POINTERaBLACK DIAMONDaWHITE DIAMOND
n CONTAINING BLACK SMALL DIAMONDaFISHEYEaLOZENGEaWHITE CIRCLEaDOTTED CIRCLE
aCIRCLE WITH VERTICAL FILLaBULLSEYEbLACK CIRCLEaCIRCLE WITH LEFT HALF BLACKmRIGHT HALF BLACK
mLOWER HALF BLACKmUPPER HALF BLACKsRIGHT QUADRANT BLACKmALL BUT UPPER LEFT QUADRANT BLACK
aLEFT HALF BLACK CIRCLEaRIGHT HALF BLACK CIRCLEaINVERSE BULLETiWHITE CIRCLE
aUPPER HALF INVERSE WHITE CIRCLEaLOWER HALF INVERSE WHITE CIRCLEaUPPER LEFT QUADRANT CIRCULAR ARC
gRIGHT QUADRANT CIRCULAR ARCaLOWER RIGHT QUADRANT CIRCULAR ARCgLEFT QUADRANT CIRCULAR ARC
aUPPER HALF CIRCLEaLOWER HALF CIRCLEaBLACK LOWER RIGHT TRIANGLEmLEFT TRIANGLEgUPPER LEFT TRIANGLE
mRIGHT TRIANGLEaWHITE BULLETaSQUARE WITH LEFT HALF BLACKmRIGHT HALF BLACK
mUPPER LEFT DIAGONAL HALF BLACKmLOWER RIGHT DIAGONAL HALF BLACK
aWHITE SQUARE WITH VERTICAL BISECTING LINEgUP-POINTING TRIANGLE WITH DOT
aUP-POINTING TRIANGLE WITH LEFT HALF BLACKαRIGHT HALF BLACKaLARGE CIRCLE
aWHITE SQUARE WITH UPPER LEFT QUADRANTsLOWER LEFT QUADRANTyRIGHT QUADRANTsUPPER RIGHT QUADRANT
gCIRCLE WITH UPPER LEFT QUADRANTsLOWER LEFT QUADRANTyRIGHT QUADRANTsUPPER RIGHT QUADRANT
aUPPER LEFT TRIANGLEgRIGHT TRIANGLEaLOWER LEFT TRIANGLEaWHITE MEDIUM SQUAREaBLACK MEDIUM SQUARE
aWHITE MEDIUM SMALL SQUAREaBLACK MEDIUM SMALL SQUAREaLOWER RIGHT TRIANGLEaBLACK SUN WITH RAYS
aCLOUDaUMBRELLAaSNOWMANaCOMETaBLACK STARaWHITE STARaLIGHTNINGaTHUNDERSTORMaSUNaASCENDING NODE
aDESCENDING NODEaCONJUNCTIONaOPPOSITIONaBLACK TELEPHONEaWHITE TELEPHONEaBALLOT BOXk WITH CHECKqX
aSALTIREaUMBRELLA WITH RAIN DROPSaHOT BEVERAGEaWHITE SHOGI PIECEaBLACK SHOGI PIECEaSHAMROCK
aREVERSED ROTATED FLORAL HEART BULLETaBLACK LEFT POINTING INDEXgRIGHT POINTING INDEX
aWHITE LEFT POINTING INDEXgUP POINTING INDEXgRIGHT POINTING INDEXgDOWN POINTING INDEX
aSKULL AND CROSSBONESaCAUTION SIGNaRADIOACTIVE SIGNaBIOHAZARD SIGNaCADUCEUSaANKHaORTHODOX CROSS
aCHI RHObROSS OF LORRAINEjJERUSALEMaSTAR AND CRESCENTaFARSI SYMBOLaADI SHAKTIaHAMMER AND SICKLE
aPEACE SYMBOLaYIN YANGaTRIGRAM FOR HEAVENmLAKEmFIREmTHUNDERmWINDnATERmMOUNTAINmEARTH
aWHEEL OF DHARMAcITE FROWNING FACEgSMILING FACEaBLACK SMILING FACEaWHITE SUN WITH RAYS
aFIRST QUARTER MOONaLAST QUARTER MOONaMERCURYaFEMALE SIGNaEARTHaMALE SIGNaJUPITERaSATURNaURANUS
aNEPTUNEaPLUTOaARIESaTAURUSaGEMINIaCANCERaLEOaVIRGOaLIBRAaSCORPIUSbAGITTARIUSaCAPRICORNaAQUARIUS
aPISCESaWHITE CHESS KINGmQUEENmROOKmBISHOPmKNIGHTmPAWNaBLACK CHESS KINGmQUEENmROOKmBISHOPmKNIGHT
mPAWNgSPADE SUITaWHITE HEART SUITgDIAMOND SUITaBLACK CLUB SUITaWHITE SPADE SUITaBLACK HEART SUIT
gDIAMOND SUITaWHITE CLUB SUITaHOT SPRINGSaQUARTER NOTEaEIGHTH NOTEaBEAMED EIGHTH NOTES
hSIXTEENTH NOTESaMUSIC FLAT SIGNgNATURAL SIGNgSHARP SIGNaWEST SYRIAC CROSSaEAST SYRIAC CROSS
aUNIVERSAL RECYCLING SYMBOLaRECYCLING SYMBOL FOR TYPE-1 PLASTICSα2 PLASTICSα3 PLASTICSα4 PLASTICS
α5 PLASTICSα6 PLASTICSα7 PLASTICSvGENERIC MATERIALSaBLACK UNIVERSAL RECYCLING SYMBOL
aRECYCLED PAPER SYMBOLaPARTIALLY-RECYCLED PAPER SYMBOLbERMANENT PAPER SIGNaWHEELCHAIR SYMBOL
aDIE FACE-1j2j3j4j5j6aWHITE CIRCLE WITH DOT RIGHTsTWO DOTSaBLACK CIRCLE WITH WHITE DOT RIGHT
sTWO WHITE DOTSaMONOGRAM FOR YANGoINaDIGRAM FOR GREATER YANGlLESSER YINtANGlGREATER YIN
aWHITE FLAGaBLACK FLAGaHAMMER AND PICKaANCHORaCROSSED SWORDSaSTAFF OF AESCULAPIUSbCALESaALEMBIC
aFLOWERaGEARaSTAFF OF HERMESaATOM SYMBOLaFLEUR-DE-LISaOUTLINED WHITE STAR
aTHREE LINES CONVERGING RIGHTxLEFTaWARNING SIGNaHIGH VOLTAGE SIGNaDOUBLED FEMALE SIGNiMALE SIGN
aINTERLOCKED FEMALE AND MALE SIGNaMALE AND FEMALE SIGNfWITH STROKE SIGNrAND MALE AND FEMALE SIGN
aVERTICAL MALE WITH STROKE SIGNaHORIZONTAL MALE WITH STROKE SIGNaMEDIUM WHITE CIRCLEhBLACK CIRCLE
hSMALL WHITE CIRCLEbARRIAGE SYMBOLaDIVORCE SYMBOLaUNMARRIED PARTNERSHIP SYMBOLaCOFFINaFUNERAL URN
aNEUTERaCERESaPALLASaJUNOaVESTAaCHIRONaBLACK MOON LILITHaSEXTILEcMISEXTILEaQUINCUNX
aSESQUIQUADRATEbOCCER BALLaBASEBALLaSQUARED KEYaWHITE DRAUGHTS MANpKINGaBLACK DRAUGHTS MANpKING
aSNOWMAN WITHOUT SNOWbUN BEHIND CLOUDaRAINaBLACK SNOWMANaTHUNDER CLOUD AND RAIN
bURNED WHITE SHOGI PIECEhBLACK SHOGI PIECEaWHITE DIAMOND IN SQUAREaCROSSING LANESaDISABLED CAR
aOPHIUCHUSaPICKaCAR SLIDINGaHELMET WITH WHITE CROSSaCIRCLED CROSSING LANESbHAINSaNO ENTRY
aALTERNATE ONE-WAY LEFT WAY TRAFFICaBLACK TWO-WAY LEFT WAY TRAFFICaWHITE TWO-WAY LEFT WAY TRAFFIC
aBLACK LEFT LANE MERGEaWHITE LEFT LANE MERGEaDRIVE SLOW SIGNaHEAVY WHITE DOWN-POINTING TRIANGLE
aLEFT CLOSED ENTRYaSQUARED SALTIREaFALLING DIAGONAL IN WHITE CIRCLE IN BLACK SQUAREaBLACK TRUCK
aRESTRICTED LEFT ENTRY-1w2aASTRONOMICAL SYMBOL FOR URANUS
aHEAVY CIRCLE WITH STROKE AND TWO DOTS ABOVEaPENTAGRAMaRIGHT-HANDED INTERLACED PENTAGRAM
aLEFT-HANDED INTERLACED PENTAGRAMaINVERTED PENTAGRAMaBLACK CROSS ON SHIELDaSHINTO SHRINEaCHURCH
bASTLEaHISTORIC SITEaGEAR WITHOUT HUBj HANDLESaMAP SYMBOL FOR LIGHTHOUSEbOUNTAIN
aUMBRELLA ON GROUNDaFOUNTAINbLAG IN HOLEbERRYaSAILBOATbQUARE FOUR CORNERSbKIERaICE SKATE
aPERSON WITH BALLaTENTaJAPANESE BANK SYMBOLaHEADSTONE GRAVEYARD SYMBOLaFUEL PUMP
aCUP ON BLACK SQUAREaWHITE FLAG WITH HORIZONTAL MIDDLE BLACK STRIPEaBLACK SAFETY SCISSORS
aUPPER BLADE SCISSORSaBLACK SCISSORSaLOWER BLADE SCISSORSaWHITE SCISSORSgHEAVY CHECK MARK
aTELEPHONE LOCATION SIGNbAPE DRIVEaAIRPLANEaENVELOPEaRAISED FISThHANDaVICTORY HANDaWRITING HAND
aLOWER RIGHT PENCILaPENCILaUPPER RIGHT PENCILaWHITE NIBaBLACK NIBaCHECK MARKaHEAVY CHECK MARK
aMULTIPLICATION XaHEAVY MULTIPLICATION XaBALLOT XaHEAVY BALLOT XaOUTLINED GREEK CROSS
aHEAVY GREEK CROSSaOPEN CENTRE CROSSaHEAVY OPEN CENTRE CROSSaLATIN CROSS
aSHADOWED WHITE LATIN CROSSaOUTLINED LATIN CROSSaMALTESE CROSSaSTAR OF DAVID
aFOUR TEARDROP-SPOKED ASTERISKfBALLOON-SPOKED ASTERISKaHEAVY FOUR BALLOON-SPOKED ASTERISK
aFOUR CLUB-SPOKED ASTERISKaBLACK FOUR POINTED STARaWHITE FOUR POINTED STARaSPARKLES
bTRESS OUTLINED WHITE STARaCIRCLED WHITE STARaOPEN CENTRE BLACK STARaBLACK CENTRE WHITE STAR
aOUTLINED BLACK STARaHEAVY OUTLINED BLACK STARaPINWHEEL STARaSHADOWED WHITE STARaHEAVY ASTERISK
aOPEN CENTRE ASTERISKaEIGHT SPOKED ASTERISKgPOINTED BLACK STARoPINWHEEL STAR
aSIX POINTED BLACK STARaEIGHT POINTED RECTILINEAR BLACK STAR
aHEAVY EIGHT POINTED RECTILINEAR BLACK STARaTWELVE POINTED BLACK STARaSIXTEEN POINTED ASTERISK
aTEARDROP-SPOKED ASTERISKaOPEN CENTRE TEARDROP-SPOKED ASTERISKaHEAVY TEARDROP-SPOKED ASTERISK
aSIX PETALLED BLACK AND WHITE FLORETTEaBLACK FLORETTEaWHITE FLORETTE
aEIGHT PETALLED OUTLINED BLACK FLORETTEaCIRCLED OPEN CENTRE EIGHT POINTED STAR
aHEAVY TEARDROP-SPOKED PINWHEEL ASTERISKaSNOWFLAKEaTIGHT TRIFOLIATE SNOWFLAKE
aHEAVY CHEVRON SNOWFLAKEaSPARKLEaHEAVY SPARKLEaBALLOON-SPOKED ASTERISK
aEIGHT TEARDROP-SPOKED PROPELLER ASTERISKaHEAVY EIGHT TEARDROP-SPOKED PROPELLER ASTERISK
aCROSS MARKaSHADOWED WHITE CIRCLEaNEGATIVE SQUARED CROSS MARK
aLOWER RIGHT DROP-SHADOWED WHITE SQUAREaUPPER RIGHT DROP-SHADOWED WHITE SQUARE
aLOWER RIGHT SHADOWED WHITE SQUAREaUPPER RIGHT SHADOWED WHITE SQUAREaBLACK QUESTION MARK ORNAMENT
aWHITE QUESTION MARK ORNAMENTgEXCLAMATION MARK ORNAMENTaBLACK DIAMOND MINUS WHITE X
aHEAVY EXCLAMATION MARK SYMBOLaLIGHT VERTICAL BARaMEDIUM VERTICAL BARaHEAVY VERTICAL BAR
gSINGLE TURNED COMMA QUOTATION MARK ORNAMENTnCOMMA QUOTATION MARK ORNAMENT
gDOUBLE TURNED COMMA QUOTATION MARK ORNAMENTnCOMMA QUOTATION MARK ORNAMENT
gLOW SINGLE COMMA QUOTATION MARK ORNAMENTkDOUBLE COMMA QUOTATION MARK ORNAMENT
aCURVED STEM PARAGRAPH SIGN ORNAMENTaHEAVY EXCLAMATION MARK ORNAMENT
gHEART EXCLAMATION MARK ORNAMENTgBLACK HEARTaROTATED HEAVY BLACK HEART BULLETaFLORAL HEART
aROTATED FLORAL HEART BULLETaMEDIUM LEFT PARENTHESIS ORNAMENThRIGHT PARENTHESIS ORNAMENT
hFLATTENED LEFT PARENTHESIS ORNAMENTrRIGHT PARENTHESIS ORNAMENT
hLEFT-POINTING ANGLE BRACKET ORNAMENThRIGHT-POINTING ANGLE BRACKET ORNAMENT
aHEAVY LEFT-POINTING ANGLE QUOTATION MARK ORNAMENTgRIGHT-POINTING ANGLE QUOTATION MARK ORNAMENT
gLEFT-POINTING ANGLE BRACKET ORNAMENTgRIGHT-POINTING ANGLE BRACKET ORNAMENT
aLIGHT LEFT TORTOISE SHELL BRACKET ORNAMENTgRIGHT TORTOISE SHELL BRACKET ORNAMENT
aMEDIUM LEFT CURLY BRACKET ORNAMENThRIGHT CURLY BRACKET ORNAMENT
aDINGBAT NEGATIVE CIRCLED DIGIT ONEζTWOηHREEζFOURηIVEζSIXηEVENζEIGHTζNINEzNUMBER TEN
iCIRCLED SANS-SERIF DIGIT ONEθTWOιHREEθFOURιIVEθSIXιEVENθEIGHTθNINEβNUMBER TEN
iNEGATIVE CIRCLED SANS-SERIF DIGIT ONEρTWOςHREEρFOURςIVEρSIXςEVENρEIGHTρNINEλNUMBER TEN
aHEAVY WIDE-HEADED RIGHTWARDS ARROWgPLUS SIGNgMINUS SIGNgDIVISION SIGNgSOUTH EAST ARROW
gRIGHTWARDS ARROWgNORTH EAST ARROWaDRAFTING POINT RIGHTWARDS ARROW
aHEAVY ROUND-TIPPED RIGHTWARDS ARROWaTRIANGLE-HEADED RIGHTWARDS ARROW
aHEAVY TRIANGLE-HEADED RIGHTWARDS ARROWaDASHED TRIANGLE-HEADED RIGHTWARDS ARROW
aHEAVY DASHED TRIANGLE-HEADED RIGHTWARDS ARROWaBLACK RIGHTWARDS ARROW
aTHREE-D TOP-LIGHTED RIGHTWARDS ARROWHEADiBOTTOM-LIGHTED RIGHTWARDS ARROWHEAD
aBLACK RIGHTWARDS ARROWHEADaHEAVY BLACK CURVED DOWNWARDS AND RIGHTWARDS ARROW
tUPWARDS AND RIGHTWARDS ARROWaSQUAT BLACK RIGHTWARDS ARROW
aHEAVY CONCAVE-POINTED BLACK RIGHTWARDS ARROWaRIGHT-SHADED WHITE RIGHTWARDS ARROW
aLEFT-SHADED WHITE RIGHTWARDS ARROWaBACK-TILTED SHADOWED WHITE RIGHTWARDS ARROW
aFRONT-TILTED SHADOWED WHITE RIGHTWARDS ARROWaHEAVY LOWER RIGHT-SHADOWED WHITE RIGHTWARDS ARROW
gUPPER RIGHT-SHADOWED WHITE RIGHTWARDS ARROWaNOTCHED LOWER RIGHT-SHADOWED WHITE RIGHTWARDS ARROW
aCURLY LOOPaNOTCHED UPPER RIGHT-SHADOWED WHITE RIGHTWARDS ARROW
aCIRCLED HEAVY WHITE RIGHTWARDS ARROWaWHITE-FEATHERED RIGHTWARDS ARROW
aBLACK-FEATHERED SOUTH EAST ARROWqRIGHTWARDS ARROWqNORTH EAST ARROW
aHEAVY BLACK-FEATHERED SOUTH EAST ARROWwRIGHTWARDS ARROWwNORTH EAST ARROW
aTEARDROP-BARBED RIGHTWARDS ARROWaHEAVY TEARDROP-SHANKED RIGHTWARDS ARROW
aWEDGE-TAILED RIGHTWARDS ARROWaHEAVY WEDGE-TAILED RIGHTWARDS ARROWaOPEN-OUTLINED RIGHTWARDS ARROW
aDOUBLE CURLY LOOPaTHREE DIMENSIONAL ANGLEaWHITE TRIANGLE CONTAINING SMALL WHITE TRIANGLE
aPERPENDICULARaOPEN SUBSEThPERSETaLEFT S-SHAPED BAG DELIMITERaRIGHT S-SHAPED BAG DELIMITER
aOR WITH DOT INSIDEaREVERSE SOLIDUS PRECEDING SUBSETaSUPERSET PRECEDING SOLIDUS
aVERTICAL BAR WITH HORIZONTAL STROKEaMATHEMATICAL RISING DIAGONALaLONG DIVISION
aMATHEMATICAL FALLING DIAGONALaSQUARED LOGICAL ANDqORaWHITE DIAMOND WITH CENTRED DOTaAND WITH DOT
aELEMENT OF OPENING UPWARDSaLOWER RIGHT CORNER WITH DOTaUPPER LEFT CORNER WITH DOT
aLEFT OUTER JOINaRIGHT OUTER JOINaFULL OUTER JOINaLARGE UP TACKgDOWN TACK
bEFT AND RIGHT DOUBLE TURNSTILEpTACKfMULTIMAPbONG RIGHT TACKfLEFT TACKaUP TACK WITH CIRCLE ABOVE
aLOZENGE DIVIDED BY HORIZONTAL RULEaWHITE CONCAVE-SIDED DIAMONDβ WITH LEFTWARDS TICK
θRIGHTWARDS TICKgSQUARE WITH LEFTWARDS TICKsRIGHTWARDS TICK
aMATHEMATICAL LEFT WHITE SQUARE BRACKETnRIGHT WHITE SQUARE BRACKETnLEFT ANGLE BRACKET
nRIGHT ANGLE BRACKETnLEFT DOUBLE ANGLE BRACKETnRIGHT DOUBLE ANGLE BRACKET
nLEFT WHITE TORTOISE SHELL BRACKETnRIGHT WHITE TORTOISE SHELL BRACKETnLEFT FLATTENED PARENTHESIS
nRIGHT FLATTENED PARENTHESISaUPWARDS QUADRUPLE ARROWaDOWNWARDS QUADRUPLE ARROW
aANTICLOCKWISE GAPPED CIRCLE ARROWaCLOCKWISE GAPPED CIRCLE ARROWaRIGHT ARROW WITH CIRCLED PLUS
aLONG LEFTWARDS ARROWfRIGHTWARDS ARROWfLEFT RIGHT ARROWjWARDS DOUBLE ARROW
fRIGHTWARDS DOUBLE ARROWfLEFT RIGHT DOUBLE ARROWjWARDS ARROW FROM BARfRIGHTWARDS ARROW FROM BAR
fLEFTWARDS DOUBLE ARROW FROM BARfRIGHTWARDS DOUBLE ARROW FROM BARqSQUIGGLE ARROW
aBRAILLE PATTERN BLANKqDOTS-1v2v12v3v13v23v123v4v14v24v124v34v134v234v1234v5v15v25v125v35v135v235
v1235v45v145v245v1245v345v1345v2345v12345v6v16v26v126v36v136v236v1236v46v146v246v1246v346v1346
v2346v12346v56v156v256v1256v356v1356v2356v12356v456v1456v2456v12456v3456v13456v23456v123456v7v17
v27v127v37v137v237v1237v47v147v247v1247v347v1347v2347v12347v57v157v257v1257v357v1357v2357v12357
v457v1457v2457v12457v3457v13457v23457v123457v67v167v267v1267v367v1367v2367v12367v467v1467v2467
v12467v3467v13467v23467v123467v567v1567v2567v12567v3567v13567v23567v123567v4567v14567v24567
v124567v34567v134567v234567v1234567v8v18v28v128v38v138v238v1238v48v148v248v1248v348v1348v2348
v12348v58v158v258v1258v358v1358v2358v12358v458v1458v2458v12458v3458v13458v23458v123458v68v168v268
v1268v368v1368v2368v12368v468v1468v2468v12468v3468v13468v23468v123468v568v1568v2568v12568v3568
v13568v23568v123568v4568v14568v24568v124568v34568v134568v234568v1234568v78v178v278v1278v378v1378
v2378v12378v478v1478v2478v12478v3478v13478v23478v123478v578v1578v2578v12578v3578v13578v23578
v123578v4578v14578v24578v124578v34578v134578v234578v1234578v678v1678v2678v12678v3678v13678v23678
v123678v4678v14678v24678v124678v34678v134678v234678v1234678v5678v15678v25678v125678v35678v135678
v235678v1235678v45678v145678v245678v1245678v345678v1345678v2345678v12345678
aRIGHTWARDS TWO-HEADED ARROW WITH VERTICAL STROKEθDOUBLE VERTICAL STROKE
aLEFTWARDS DOUBLE ARROW WITH VERTICAL STROKEaRIGHTWARDS DOUBLE ARROW WITH VERTICAL STROKE
aLEFT RIGHT DOUBLE ARROW WITH VERTICAL STROKEaRIGHTWARDS TWO-HEADED ARROW FROM BAR
aLEFTWARDS DOUBLE ARROW FROM BARaRIGHTWARDS DOUBLE ARROW FROM BAR
aDOWNWARDS ARROW WITH HORIZONTAL STROKEaUPWARDS ARROW WITH HORIZONTAL STROKEiTRIPLE ARROW
aDOWNWARDS TRIPLE ARROWaLEFTWARDS DOUBLE DASH ARROWaRIGHTWARDS DOUBLE DASH ARROW
aLEFTWARDS TRIPLE DASH ARROWaRIGHTWARDS TRIPLE DASH ARROWmWO-HEADED TRIPLE DASH ARROW
lARROW WITH DOTTED STEMaUPWARDS ARROW TO BARaDOWNWARDS ARROW TO BAR
aRIGHTWARDS ARROW WITH TAIL WITH VERTICAL STROKEηDOUBLE VERTICAL STROKE
lTWO-HEADED ARROW WITH TAILμ WITH VERTICAL STROKEςDOUBLE VERTICAL STROKEaLEFTWARDS ARROW-TAIL
aRIGHTWARDS ARROW-TAILaLEFTWARDS DOUBLE ARROW-TAILaRIGHTWARDS DOUBLE ARROW-TAIL
aLEFTWARDS ARROW TO BLACK DIAMONDaRIGHTWARDS ARROW TO BLACK DIAMOND
aLEFTWARDS ARROW FROM BAR TO BLACK DIAMONDaRIGHTWARDS ARROW FROM BAR TO BLACK DIAMOND
aNORTH WEST AND SOUTH EAST ARROWgEAST AND SOUTH WEST ARROWgWEST ARROW WITH HOOK
gEAST ARROW WITH HOOKaSOUTH EAST ARROW WITH HOOKgWEST ARROW WITH HOOK
aNORTH WEST ARROW AND NORTH EAST ARROWgEAST ARROW AND SOUTH EAST ARROW
aSOUTH EAST ARROW AND SOUTH WEST ARROWgWEST ARROW AND NORTH WEST ARROW
aRISING DIAGONAL CROSSING FALLING DIAGONALaFALLING DIAGONAL CROSSING RISING DIAGONAL
aSOUTH EAST ARROW CROSSING NORTH EAST ARROWaNORTH EAST ARROW CROSSING SOUTH EAST ARROW
aFALLING DIAGONAL CROSSING NORTH EAST ARROWaRISING DIAGONAL CROSSING SOUTH EAST ARROW
aNORTH EAST ARROW CROSSING NORTH WEST ARROWgWEST ARROW CROSSING NORTH EAST ARROW
aWAVE ARROW POINTING DIRECTLY RIGHTaARROW POINTING RIGHTWARDS THEN CURVING UPWARDSξDOWNWARDS
pDOWNWARDS THEN CURVING LEFTWARDSνRIGHTWARDSaRIGHT-SIDE ARC CLOCKWISE ARROW
aLEFT-SIDE ARC ANTICLOCKWISE ARROWaTOP ARC ANTICLOCKWISE ARROWaBOTTOM ARC ANTICLOCKWISE ARROW
aTOP ARC CLOCKWISE ARROW WITH MINUSiANTICLOCKWISE ARROW WITH PLUS
aLOWER RIGHT SEMICIRCULAR CLOCKWISE ARROWgLEFT SEMICIRCULAR ANTICLOCKWISE ARROW
aANTICLOCKWISE CLOSED CIRCLE ARROWaCLOCKWISE CLOSED CIRCLE ARROW
aRIGHTWARDS ARROW ABOVE SHORT LEFTWARDS ARROWaLEFTWARDS ARROW ABOVE SHORT RIGHTWARDS ARROW
aSHORT RIGHTWARDS ARROW ABOVE LEFTWARDS ARROWaRIGHTWARDS ARROW WITH PLUS BELOW
aLEFTWARDS ARROW WITH PLUS BELOWaRIGHTWARDS ARROW THROUGH XaLEFT RIGHT ARROW THROUGH SMALL CIRCLE
aUPWARDS TWO-HEADED ARROW FROM SMALL CIRCLEaLEFT BARB UP RIGHT BARB DOWN HARPOON
kDOWN RIGHT BARB UP HARPOONaUP BARB RIGHT DOWN BARB LEFT HARPOONiLEFT DOWN BARB RIGHT HARPOON
aLEFT BARB UP RIGHT BARB UP HARPOONaUP BARB RIGHT DOWN BARB RIGHT HARPOON
aLEFT BARB DOWN RIGHT BARB DOWN HARPOONaUP BARB LEFT DOWN BARB LEFT HARPOON
aLEFTWARDS HARPOON WITH BARB UP TO BARaRIGHTWARDS HARPOON WITH BARB UP TO BAR
aUPWARDS HARPOON WITH BARB RIGHT TO BARaDOWNWARDS HARPOON WITH BARB RIGHT TO BAR
aLEFTWARDS HARPOON WITH BARB DOWN TO BARaRIGHTWARDS HARPOON WITH BARB DOWN TO BAR
aUPWARDS HARPOON WITH BARB LEFT TO BARaDOWNWARDS HARPOON WITH BARB LEFT TO BAR
aLEFTWARDS HARPOON WITH BARB UP FROM BARaRIGHTWARDS HARPOON WITH BARB UP FROM BAR
aUPWARDS HARPOON WITH BARB RIGHT FROM BARaDOWNWARDS HARPOON WITH BARB RIGHT FROM BAR
aLEFTWARDS HARPOON WITH BARB DOWN FROM BARaRIGHTWARDS HARPOON WITH BARB DOWN FROM BAR
aUPWARDS HARPOON WITH BARB LEFT FROM BARaDOWNWARDS HARPOON WITH BARB LEFT FROM BAR
aLEFTWARDS HARPOON WITH BARB UP ABOVE LEFTWARDS HARPOON WITH BARB DOWN
aUPWARDS HARPOON WITH BARB LEFT BESIDE UPWARDS HARPOON WITH BARB RIGHT
aRIGHTWARDS HARPOON WITH BARB UP ABOVE RIGHTWARDS HARPOON WITH BARB DOWN
aDOWNWARDS HARPOON WITH BARB LEFT BESIDE DOWNWARDS HARPOON WITH BARB RIGHT
aLEFTWARDS HARPOON WITH BARB UP ABOVE RIGHTWARDS HARPOON WITH BARB UP
γDOWN ABOVE RIGHTWARDS HARPOON WITH BARB DOWN
aRIGHTWARDS HARPOON WITH BARB UP ABOVE LEFTWARDS HARPOON WITH BARB UP
δDOWN ABOVE LEFTWARDS HARPOON WITH BARB DOWNaLEFTWARDS HARPOON WITH BARB UP ABOVE LONG DASH
γDOWN BELOW LONG DASHaRIGHTWARDS HARPOON WITH BARB UP ABOVE LONG DASHδDOWN BELOW LONG DASH
aUPWARDS HARPOON WITH BARB LEFT BESIDE DOWNWARDS HARPOON WITH BARB RIGHT
aDOWNWARDS HARPOON WITH BARB LEFT BESIDE UPWARDS HARPOON WITH BARB RIGHT
aRIGHT DOUBLE ARROW WITH ROUNDED HEADaEQUALS SIGN ABOVE RIGHTWARDS ARROW
aTILDE OPERATOR ABOVE RIGHTWARDS ARROWaLEFTWARDS ARROW ABOVE TILDE OPERATOR
aRIGHTWARDS ARROW ABOVE TILDE OPERATORxALMOST EQUAL TOaLESS-THAN ABOVE LEFTWARDS ARROW
cFTWARDS ARROW THROUGH LESS-THANaGREATER-THAN ABOVE RIGHTWARDS ARROW
aSUBSET ABOVE RIGHTWARDS ARROWaLEFTWARDS ARROW THROUGH SUBSETaSUPERSET ABOVE LEFTWARDS ARROW
aLEFT FISH TAILaRIGHT FISH TAILaUP FISH TAILaDOWN FISH TAILaTRIPLE VERTICAL BAR DELIMITER
aZ NOTATION SPOTlTYPE COLONaLEFT WHITE CURLY BRACKETaRIGHT WHITE CURLY BRACKET
aLEFT WHITE PARENTHESISaRIGHT WHITE PARENTHESISaZ NOTATION LEFT IMAGE BRACKETlRIGHT IMAGE BRACKET
lLEFT BINDING BRACKETlRIGHT BINDING BRACKETaLEFT SQUARE BRACKET WITH UNDERBAR
aRIGHT SQUARE BRACKET WITH UNDERBARaLEFT SQUARE BRACKET WITH TICK IN TOP CORNER
aRIGHT SQUARE BRACKET WITH TICK IN BOTTOM CORNERaLEFT SQUARE BRACKET WITH TICK IN BOTTOM CORNER
aRIGHT SQUARE BRACKET WITH TICK IN TOP CORNERaLEFT ANGLE BRACKET WITH DOT
aRIGHT ANGLE BRACKET WITH DOTaLEFT ARC LESS-THAN BRACKETaRIGHT ARC GREATER-THAN BRACKET
aDOUBLE LEFT ARC GREATER-THAN BRACKEThRIGHT ARC LESS-THAN BRACKET
aLEFT BLACK TORTOISE SHELL BRACKETaRIGHT BLACK TORTOISE SHELL BRACKETaDOTTED FENCE
aVERTICAL ZIGZAG LINEaMEASURED ANGLE OPENING LEFTaRIGHT ANGLE VARIANT WITH SQUARE
aMEASURED RIGHT ANGLE WITH DOTaANGLE WITH S INSIDEbCUTE ANGLEaSPHERICAL ANGLE OPENING LEFTyUP
aTURNED ANGLEaREVERSED ANGLEaANGLE WITH UNDERBARaREVERSED ANGLE WITH UNDERBAR
aOBLIQUE ANGLE OPENING UPwDOWNaMEASURED ANGLE WITH OPEN ARM ENDING IN ARROW POINTING UP AND RIGHT
ωING UP AND LEFTωING DOWN AND RIGHTωING DOWN AND LEFTωING RIGHT AND UPωING LEFT AND UP
ωING RIGHT AND DOWNωING LEFT AND DOWNaREVERSED EMPTY SETaEMPTY SET WITH OVERBAR
pSMALL CIRCLE ABOVEpRIGHT ARROW ABOVEpLEFT ARROW ABOVEaCIRCLE WITH HORIZONTAL BARgD VERTICAL BAR
iPARALLELiREVERSE SOLIDUSiPERPENDICULAR
g DIVIDED BY HORIZONTAL BAR AND TOP HALF DIVIDED BY VERTICAL BARhWITH SUPERIMPOSED X
gD ANTICLOCKWISE-ROTATED DIVISION SIGNaUP ARROW THROUGH CIRCLEaCIRCLED WHITE BULLETiBULLET
iLESS-THANiGREATER-THANg WITH SMALL CIRCLE TO THE RIGHTmTWO HORIZONTAL STROKES TO THE RIGHT
aSQUARED RISING DIAGONAL SLASHiFALLING DIAGONAL SLASHiASTERISKiSMALL CIRCLEjQUARE
aTWO JOINED SQUARESbRIANGLE WITH DOT ABOVEoUNDERBARaS IN TRIANGLEaTRIANGLE WITH SERIFS AT BOTTOM
aRIGHT TRIANGLE ABOVE LEFT TRIANGLEaLEFT TRIANGLE BESIDE VERTICAL BAR
aVERTICAL BAR BESIDE RIGHT TRIANGLEaBOWTIE WITH LEFT HALF BLACKmRIGHT HALF BLACKbLACK BOWTIE
aTIMES WITH LEFT HALF BLACKlRIGHT HALF BLACKaWHITE HOURGLASSaBLACK HOURGLASSaLEFT WIGGLY FENCE
aRIGHT WIGGLY FENCEaLEFT DOUBLE WIGGLY FENCEaRIGHT DOUBLE WIGGLY FENCEaINCOMPLETE INFINITY
aTIE OVER INFINITYaINFINITY NEGATED WITH VERTICAL BARaDOUBLE-ENDED MULTIMAP
aSQUARE WITH CONTOURED OUTLINEaINCREASES ASaSHUFFLE PRODUCTaEQUALS SIGN AND SLANTED PARALLEL
η WITH TILDE ABOVEaIDENTICAL TO AND SLANTED PARALLELaGLEICH STARKaTHERMODYNAMIC
aDOWN-POINTING TRIANGLE WITH LEFT HALF BLACKγRIGHT HALF BLACKaBLACK DIAMOND WITH DOWN ARROW
gLOZENGEaWHITE CIRCLE WITH DOWN ARROWaBLACK CIRCLE WITH DOWN ARROWaERROR-BARRED WHITE SQUARE
nBLACK SQUAREnWHITE DIAMONDnBLACK DIAMONDnWHITE CIRCLEnBLACK CIRCLEaRULE-DELAYED
bEVERSE SOLIDUS OPERATORaSOLIDUS WITH OVERBARaREVERSE SOLIDUS WITH HORIZONTAL STROKEaBIG SOLIDUS
eREVERSE SOLIDUSaDOUBLE PLUSaTRIPLE PLUSaLEFT-POINTING CURVED ANGLE BRACKET
aRIGHT-POINTING CURVED ANGLE BRACKETaTINYaMINYaN-ARY CIRCLED DOT OPERATORoPLUS OPERATOR
oTIMES OPERATORgUNION OPERATOR WITH DOTαPLUSgSQUARE INTERSECTION OPERATORnUNION OPERATOR
aTWO LOGICAL AND OPERATORmOR OPERATORaN-ARY TIMES OPERATORaMODULO TWO SUMaSUMMATION WITH INTEGRAL
aQUADRUPLE INTEGRAL OPERATORaFINITE PART INTEGRALaINTEGRAL WITH DOUBLE STROKEjAVERAGE WITH SLASH
aCIRCULATION FUNCTIONaANTICLOCKWISE INTEGRATION
aLINE INTEGRATION WITH RECTANGULAR PATH AROUND POLEwSEMICIRCULAR PATH AROUND POLE
rNOT INCLUDING THE POLEaINTEGRAL AROUND A POINT OPERATORaQUATERNION INTEGRAL OPERATOR
aINTEGRAL WITH LEFTWARDS ARROW WITH HOOKoTIMES SIGNoINTERSECTIONoUNIONoOVERBARoUNDERBARaJOIN
aLARGE LEFT TRIANGLE OPERATORaZ NOTATION SCHEMA COMPOSITIONsPIPINGtROJECTION
aPLUS SIGN WITH SMALL CIRCLE ABOVEpCIRCUMFLEX ACCENT ABOVEpTILDE ABOVEpDOT BELOWpTILDE BELOW
pSUBSCRIPT TWOpBLACK TRIANGLEaMINUS SIGN WITH COMMA ABOVEqDOT BELOWqFALLING DOTSqRISING DOTS
aPLUS SIGN IN LEFT HALF CIRCLEnRIGHT HALF CIRCLEaVECTOR OR CROSS PRODUCT
aMULTIPLICATION SIGN WITH DOT ABOVEzUNDERBARaSEMIDIRECT PRODUCT WITH BOTTOM CLOSEDbMASH PRODUCT
aMULTIPLICATION SIGN IN LEFT HALF CIRCLExRIGHT HALF CIRCLE
aCIRCLED MULTIPLICATION SIGN WITH CIRCUMFLEX ACCENTaMULTIPLICATION SIGN IN DOUBLE CIRCLE
aCIRCLED DIVISION SIGNaPLUS SIGN IN TRIANGLEaMINUS SIGN IN TRIANGLE
bULTIPLICATION SIGN IN TRIANGLEaINTERIOR PRODUCTaRIGHTHAND INTERIOR PRODUCT
aZ NOTATION RELATIONAL COMPOSITIONaAMALGAMATION OR COPRODUCTaINTERSECTION WITH DOT
aUNION WITH MINUS SIGNlOVERBARaINTERSECTION WITH OVERBARsLOGICAL ANDaUNION WITH LOGICAL OR
gABOVE INTERSECTIONaINTERSECTION ABOVE UNIONaUNION ABOVE BAR ABOVE INTERSECTION
aINTERSECTION ABOVE BAR ABOVE UNIONaUNION BESIDE AND JOINED WITH UNION
aINTERSECTION BESIDE AND JOINED WITH INTERSECTIONaCLOSED UNION WITH SERIFS
hINTERSECTION WITH SERIFSaDOUBLE SQUARE INTERSECTIONoUNION
aCLOSED UNION WITH SERIFS AND SMASH PRODUCTaLOGICAL AND WITH DOT ABOVEiOR WITH DOT ABOVE
aDOUBLE LOGICAL ANDpORaTWO INTERSECTING LOGICAL ANDzORaSLOPING LARGE ORoAND
aLOGICAL OR OVERLAPPING LOGICAL ANDiAND WITH MIDDLE STEMiOR WITH MIDDLE STEM
iAND WITH HORIZONTAL DASHiOR WITH HORIZONTAL DASHiAND WITH DOUBLE OVERBARrUNDERBAR
rDOUBLE UNDERBARaSMALL VEE WITH UNDERBARaLOGICAL OR WITH DOUBLE OVERBARxUNDERBAR
aZ NOTATION DOMAIN ANTIRESTRICTIONlRANGE ANTIRESTRICTIONaEQUALS SIGN WITH DOT BELOW
aIDENTICAL WITH DOT ABOVEaTRIPLE HORIZONTAL BAR WITH DOUBLE VERTICAL STROKE
βTRIPLE VERTICAL STROKEbILDE OPERATOR WITH DOT ABOVEuRISING DOTSaSIMILAR MINUS SIMILAR
aCONGRUENT WITH DOT ABOVEaEQUALS WITH ASTERISKaALMOST EQUAL TO WITH CIRCUMFLEX ACCENT
bPPROXIMATELY EQUAL OR EQUAL TOaEQUALS SIGN ABOVE PLUS SIGNaPLUS SIGN ABOVE EQUALS SIGN
aEQUALS SIGN ABOVE TILDE OPERATORaDOUBLE COLON EQUALaTWO CONSECUTIVE EQUALS SIGNS
bHREE CONSECUTIVE EQUALS SIGNSaEQUALS SIGN WITH TWO DOTS ABOVE AND TWO DOTS BELOW
dIVALENT WITH FOUR DOTS ABOVEaLESS-THAN WITH CIRCLE INSIDEaGREATER-THAN WITH CIRCLE INSIDE
aLESS-THAN WITH QUESTION MARK ABOVEaGREATER-THAN WITH QUESTION MARK ABOVE
aLESS-THAN OR SLANTED EQUAL TOaGREATER-THAN OR SLANTED EQUAL TO
aLESS-THAN OR SLANTED EQUAL TO WITH DOT INSIDEaGREATER-THAN OR SLANTED EQUAL TO WITH DOT INSIDE
aLESS-THAN OR SLANTED EQUAL TO WITH DOT ABOVEaGREATER-THAN OR SLANTED EQUAL TO WITH DOT ABOVE
aLESS-THAN OR SLANTED EQUAL TO WITH DOT ABOVE RIGHT
aGREATER-THAN OR SLANTED EQUAL TO WITH DOT ABOVE LEFTaLESS-THAN OR APPROXIMATE
aGREATER-THAN OR APPROXIMATEaLESS-THAN AND SINGLE-LINE NOT EQUAL TO
aGREATER-THAN AND SINGLE-LINE NOT EQUAL TOaLESS-THAN AND NOT APPROXIMATE
aGREATER-THAN AND NOT APPROXIMATEaLESS-THAN ABOVE DOUBLE-LINE EQUAL ABOVE GREATER-THAN
aGREATER-THAN ABOVE DOUBLE-LINE EQUAL ABOVE LESS-THANaLESS-THAN ABOVE SIMILAR OR EQUAL
aGREATER-THAN ABOVE SIMILAR OR EQUALaLESS-THAN ABOVE SIMILAR ABOVE GREATER-THAN
aGREATER-THAN ABOVE SIMILAR ABOVE LESS-THANaLESS-THAN ABOVE GREATER-THAN ABOVE DOUBLE-LINE EQUAL
aGREATER-THAN ABOVE LESS-THAN ABOVE DOUBLE-LINE EQUAL
aLESS-THAN ABOVE SLANTED EQUAL ABOVE GREATER-THAN ABOVE SLANTED EQUAL
aGREATER-THAN ABOVE SLANTED EQUAL ABOVE LESS-THAN ABOVE SLANTED EQUAL
aSLANTED EQUAL TO OR LESS-THANuGREATER-THANuLESS-THAN WITH DOT INSIDE
uGREATER-THAN WITH DOT INSIDEaDOUBLE-LINE EQUAL TO OR LESS-THANyGREATER-THAN
mSLANTED EQUAL TO OR LESS-THANηGREATER-THANaSIMILAR OR LESS-THANlGREATER-THAN
iABOVE LESS-THAN ABOVE EQUALS SIGNoGREATER-THAN ABOVE EQUALS SIGNaDOUBLE NESTED LESS-THAN
oGREATER-THANoLESS-THAN WITH UNDERBARaGREATER-THAN OVERLAPPING LESS-THANnBESIDE LESS-THAN
aLESS-THAN CLOSED BY CURVEaGREATER-THAN CLOSED BY CURVE
aLESS-THAN CLOSED BY CURVE ABOVE SLANTED EQUALaGREATER-THAN CLOSED BY CURVE ABOVE SLANTED EQUAL
aSMALLER THANaLARGER THANaSMALLER THAN OR EQUAL TOaLARGER THAN OR EQUAL TO
aEQUALS SIGN WITH BUMPY ABOVEaPRECEDES ABOVE SINGLE-LINE EQUALS SIGN
aSUCCEEDS ABOVE SINGLE-LINE EQUALS SIGNaPRECEDES ABOVE SINGLE-LINE NOT EQUAL TO
aSUCCEEDS ABOVE SINGLE-LINE NOT EQUAL TOaPRECEDES ABOVE EQUALS SIGNaSUCCEEDS ABOVE EQUALS SIGN
aPRECEDES ABOVE NOT EQUAL TOaSUCCEEDS ABOVE NOT EQUAL TOaPRECEDES ABOVE ALMOST EQUAL TO
aSUCCEEDS ABOVE ALMOST EQUAL TOaPRECEDES ABOVE NOT ALMOST EQUAL TO
aSUCCEEDS ABOVE NOT ALMOST EQUAL TOaDOUBLE PRECEDEShSUCCEEDSaSUBSET WITH DOTcPERSET WITH DOT
cBSET WITH PLUS SIGN BELOWcPERSET WITH PLUS SIGN BELOWcBSET WITH MULTIPLICATION SIGN BELOW
cPERSET WITH MULTIPLICATION SIGN BELOWcBSET OF OR EQUAL TO WITH DOT ABOVE
cPERSET OF OR EQUAL TO WITH DOT ABOVEcBSET OF ABOVE EQUALS SIGNcPERSET OF ABOVE EQUALS SIGN
cBSET OF ABOVE TILDE OPERATORcPERSET OF ABOVE TILDE OPERATORcBSET OF ABOVE ALMOST EQUAL TO
cPERSET OF ABOVE ALMOST EQUAL TOcBSET OF ABOVE NOT EQUAL TOcPERSET OF ABOVE NOT EQUAL TO
bQUARE LEFT OPEN BOX OPERATORhRIGHT OPEN BOX OPERATORaCLOSED SUBSETjPERSETjBSET OR EQUAL TO
jPERSET OR EQUAL TOaSUBSET ABOVE SUPERSETcPERSET ABOVE SUBSETcBSET ABOVE SUBSET
cPERSET ABOVE SUPERSETjBESIDE SUBSETqAND JOINED BY DASH WITH SUBSETaELEMENT OF OPENING DOWNWARDS
aPITCHFORK WITH TEE TOPaTRANSVERSAL INTERSECTIONaFORKINGaNONFORKINGaSHORT LEFT TACKgDOWN TACK
gUP TACKaPERPENDICULAR WITH SaVERTICAL BAR TRIPLE RIGHT TURNSTILE
aDOUBLE VERTICAL BAR LEFT TURNSTILEaVERTICAL BAR DOUBLE LEFT TURNSTILE
aDOUBLE VERTICAL BAR DOUBLE LEFT TURNSTILEaLONG DASH FROM LEFT MEMBER OF DOUBLE VERTICAL
aSHORT DOWN TACK WITH OVERBARgUP TACK WITH UNDERBARoABOVE SHORT DOWN TACKaDOUBLE DOWN TACK
hUP TACKhSTROKE NOT SIGNaREVERSED DOUBLE STROKE NOT SIGN
aDOES NOT DIVIDE WITH REVERSED NEGATION SLASHaVERTICAL LINE WITH CIRCLE ABOVEαBELOW
aDOWN TACK WITH CIRCLE BELOWaPARALLEL WITH HORIZONTAL STROKEoTILDE OPERATOR
aTRIPLE VERTICAL BAR BINARY RELATIONuWITH HORIZONTAL STROKEhCOLON OPERATORhNESTED LESS-THAN
oGREATER-THANaDOUBLE-LINE SLANTED LESS-THAN OR EQUAL TOuGREATER-THAN OR EQUAL TO
aTRIPLE SOLIDUS BINARY RELATIONaLARGE TRIPLE VERTICAL BAR OPERATORaDOUBLE SOLIDUS OPERATOR
aWHITE VERTICAL BARaN-ARY WHITE VERTICAL BARbORTH EAST WHITE ARROWgWEST WHITE ARROW
aSOUTH EAST WHITE ARROWgWEST WHITE ARROWaLEFT RIGHT WHITE ARROWeWARDS BLACK ARROW
aUPWARDS BLACK ARROWaDOWNWARDS BLACK ARROWaNORTH EAST BLACK ARROWgWEST BLACK ARROW
aSOUTH EAST BLACK ARROWgWEST BLACK ARROWaLEFT RIGHT BLACK ARROWaUP DOWN BLACK ARROW
aRIGHTWARDS ARROW WITH TIP DOWNWARDSαUPWARDSaLEFTWARDS ARROW WITH TIP DOWNWARDSzUPWARDS
aSQUARE WITH TOP HALF BLACKmBOTTOM HALF BLACKmUPPER RIGHT DIAGONAL HALF BLACK
mLOWER LEFT DIAGONAL HALF BLACKaDIAMOND WITH LEFT HALF BLACKnRIGHT HALF BLACKnTOP HALF BLACK
nBOTTOM HALF BLACKbOTTED SQUAREaBLACK LARGE SQUAREaWHITE LARGE SQUAREaBLACK VERY SMALL SQUARE
aWHITE VERY SMALL SQUAREaBLACK PENTAGONaWHITE PENTAGONgHEXAGONaBLACK HEXAGON
aHORIZONTAL BLACK HEXAGONaBLACK LARGE CIRCLEgMEDIUM DIAMONDaWHITE MEDIUM DIAMOND
aBLACK MEDIUM LOZENGEaWHITE MEDIUM LOZENGEaBLACK SMALL DIAMONDmLOZENGEaWHITE SMALL LOZENGE
aBLACK HORIZONTAL ELLIPSEaWHITE HORIZONTAL ELLIPSEaBLACK VERTICAL ELLIPSEaWHITE VERTICAL ELLIPSE
aLEFT ARROW WITH SMALL CIRCLEaTHREE LEFTWARDS ARROWSaLEFT ARROW WITH CIRCLED PLUS
bONG LEFTWARDS SQUIGGLE ARROWbEFTWARDS TWO-HEADED ARROW WITH VERTICAL STROKE
ηDOUBLE VERTICAL STROKEβFROM BARvTRIPLE DASH ARROWkARROW WITH DOTTED STEM
vTAIL WITH VERTICAL STROKEζDOUBLE VERTICAL STROKEkTWO-HEADED ARROW WITH TAIL
λ WITH VERTICAL STROKEρDOUBLE VERTICAL STROKEkARROW THROUGH XaWAVE ARROW POINTING DIRECTLY LEFT
aEQUALS SIGN ABOVE LEFTWARDS ARROWaREVERSE TILDE OPERATOR ABOVE LEFTWARDS ARROW
aLEFTWARDS ARROW ABOVE REVERSE ALMOST EQUAL TOaRIGHTWARDS ARROW THROUGH GREATER-THANzSUPERSET
aLEFTWARDS QUADRUPLE ARROWaRIGHTWARDS QUADRUPLE ARROW
bEVERSE TILDE OPERATOR ABOVE RIGHTWARDS ARROWbIGHTWARDS ARROW ABOVE REVERSE ALMOST EQUAL TO
aTILDE OPERATOR ABOVE LEFTWARDS ARROWaLEFTWARDS ARROW ABOVE ALMOST EQUAL TO
wREVERSE TILDE OPERATORaRIGHTWARDS ARROW ABOVE REVERSE TILDE OPERATOR
aDOWNWARDS TRIANGLE-HEADED ZIGZAG ARROWaSHORT SLANTED NORTH ARROWgBACKSLANTED SOUTH ARROW
aWHITE MEDIUM STARaBLACK SMALL STARaWHITE SMALL STARaBLACK RIGHT-POINTING PENTAGON
aWHITE RIGHT-POINTING PENTAGONaHEAVY LARGE CIRCLEgOVAL WITH OVAL INSIDEgCIRCLE WITH CIRCLE INSIDE
mmD SALTIREaSLANTED NORTH ARROW WITH HOOKED HEADaBACKSLANTED SOUTH ARROW WITH HOOKED TAIL
aSLANTED NORTH ARROW WITH HORIZONTAL TAILaBACKSLANTED SOUTH ARROW WITH HORIZONTAL TAIL
bENT ARROW POINTING DOWNWARDS THEN NORTH EASTaSHORT BENT ARROW POINTING DOWNWARDS THEN NORTH EAST
aLEFTWARDS TRIANGLE-HEADED ARROWaUPWARDS TRIANGLE-HEADED ARROWaRIGHTWARDS TRIANGLE-HEADED ARROW
aDOWNWARDS TRIANGLE-HEADED ARROWaLEFT RIGHT TRIANGLE-HEADED ARROWaUP DOWN TRIANGLE-HEADED ARROW
aNORTH WEST TRIANGLE-HEADED ARROWgEAST TRIANGLE-HEADED ARROWaSOUTH EAST TRIANGLE-HEADED ARROW
gWEST TRIANGLE-HEADED ARROWaLEFTWARDS TRIANGLE-HEADED DASHED ARROW
aUPWARDS TRIANGLE-HEADED DASHED ARROWaRIGHTWARDS TRIANGLE-HEADED DASHED ARROW
aDOWNWARDS TRIANGLE-HEADED DASHED ARROWaCLOCKWISE TRIANGLE-HEADED OPEN CIRCLE ARROW
aANTICLOCKWISE TRIANGLE-HEADED OPEN CIRCLE ARROWaLEFTWARDS TRIANGLE-HEADED ARROW TO BAR
aUPWARDS TRIANGLE-HEADED ARROW TO BARaRIGHTWARDS TRIANGLE-HEADED ARROW TO BAR
aDOWNWARDS TRIANGLE-HEADED ARROW TO BAR"),
   (0x2B76, "aNORTH WEST TRIANGLE-HEADED ARROW TO BARgEAST TRIANGLE-HEADED ARROW TO BAR
aSOUTH EAST TRIANGLE-HEADED ARROW TO BARgWEST TRIANGLE-HEADED ARROW TO BAR
aLEFTWARDS TRIANGLE-HEADED ARROW WITH DOUBLE HORIZONTAL STROKE
aUPWARDS TRIANGLE-HEADED ARROW WITH DOUBLE HORIZONTAL STROKE
aRIGHTWARDS TRIANGLE-HEADED ARROW WITH DOUBLE HORIZONTAL STROKE
aDOWNWARDS TRIANGLE-HEADED ARROW WITH DOUBLE HORIZONTAL STROKEaHORIZONTAL TAB KEY
aVERTICAL TAB KEYaLEFTWARDS TRIANGLE-HEADED ARROW OVER RIGHTWARDS TRIANGLE-HEADED ARROW
aUPWARDS TRIANGLE-HEADED ARROW LEFTWARDS OF DOWNWARDS TRIANGLE-HEADED ARROW
aRIGHTWARDS TRIANGLE-HEADED ARROW OVER LEFTWARDS TRIANGLE-HEADED ARROW
aDOWNWARDS TRIANGLE-HEADED ARROW LEFTWARDS OF UPWARDS TRIANGLE-HEADED ARROW
aLEFTWARDS TRIANGLE-HEADED PAIRED ARROWSaUPWARDS TRIANGLE-HEADED PAIRED ARROWS
aRIGHTWARDS TRIANGLE-HEADED PAIRED ARROWSaDOWNWARDS TRIANGLE-HEADED PAIRED ARROWS
aLEFTWARDS BLACK CIRCLED WHITE ARROWaUPWARDS BLACK CIRCLED WHITE ARROW
aRIGHTWARDS BLACK CIRCLED WHITE ARROWaDOWNWARDS BLACK CIRCLED WHITE ARROW
aANTICLOCKWISE TRIANGLE-HEADED RIGHT U-SHAPED ARROWεBOTTOM U-SHAPED ARROWεLEFT U-SHAPED ARROW
εTOP U-SHAPED ARROWaRETURN LEFThRIGHTaNEWLINE LEFTiRIGHT
aFOUR CORNER ARROWS CIRCLING ANTICLOCKWISEaRIGHTWARDS BLACK ARROW"),
   (0x2B97, "aSYMBOL FOR TYPE A ELECTRONICSaTHREE-D TOP-LIGHTED LEFTWARDS EQUILATERAL ARROWHEAD
iRIGHT-LIGHTED UPWARDS EQUILATERAL ARROWHEADiTOP-LIGHTED RIGHTWARDS EQUILATERAL ARROWHEAD
iLEFT-LIGHTED DOWNWARDS EQUILATERAL ARROWHEADaBLACK LEFTWARDS EQUILATERAL ARROWHEAD
gUPWARDS EQUILATERAL ARROWHEADgRIGHTWARDS EQUILATERAL ARROWHEADgDOWNWARDS EQUILATERAL ARROWHEAD
aDOWNWARDS TRIANGLE-HEADED ARROW WITH LONG TIP LEFTWARDSυRIGHTWARDS
aUPWARDS TRIANGLE-HEADED ARROW WITH LONG TIP LEFTWARDSσRIGHTWARDS
aLEFTWARDS TRIANGLE-HEADED ARROW WITH LONG TIP UPWARDS
aRIGHTWARDS TRIANGLE-HEADED ARROW WITH LONG TIP UPWARDS
aLEFTWARDS TRIANGLE-HEADED ARROW WITH LONG TIP DOWNWARDS
aRIGHTWARDS TRIANGLE-HEADED ARROW WITH LONG TIP DOWNWARDS
aBLACK CURVED DOWNWARDS AND LEFTWARDS ARROWβRIGHTWARDS ARROWnUPWARDS AND LEFTWARDS ARROW
zRIGHTWARDS ARROWnLEFTWARDS AND UPWARDS ARROWnRIGHTWARDS AND UPWARDS ARROW
nLEFTWARDS AND DOWNWARDS ARROWnRIGHTWARDS AND DOWNWARDS ARROWaRIBBON ARROW DOWN LEFTsRIGHT
nUP LEFTqRIGHTnLEFT UPnRIGHT UPnLEFT DOWNnRIGHT DOWN
aUPWARDS WHITE ARROW FROM BAR WITH HORIZONTAL BARc ARROWHEAD IN A RECTANGLE BOX
aOVERLAPPING WHITE SQUARESsAND BLACK SQUARESmBLACK SQUARESaBALLOT BOX WITH LIGHT XaCIRCLED X
iBOLD XaBLACK SQUARE CENTREDgDIAMOND CENTREDaTURNED BLACK PENTAGONaHORIZONTAL BLACK OCTAGON
aBLACK OCTAGONgMEDIUM UP-POINTING TRIANGLE CENTREDnDOWN-POINTING TRIANGLE CENTRED
nLEFT-POINTING TRIANGLE CENTREDnRIGHT-POINTING TRIANGLE CENTREDaNEPTUNE FORM TWO
aTOP HALF BLACK CIRCLEaBOTTOM HALF BLACK CIRCLEaLIGHT FOUR POINTED BLACK CUSP
aROTATED LIGHT FOUR POINTED BLACK CUSPaWHITE FOUR POINTED CUSPaROTATED WHITE FOUR POINTED CUSP
aSQUARE POSITION INDICATORaUNCERTAINTY SIGNaGROUP MARKaPLUTO FORM TWOmHREElFOURmIVEaTRANSPLUTO
aPROSERPINAaASTRAEAaHYGIEAaPHOLUSaNESSUSaWHITE MOON SELENAaBLACK DIAMOND ON CROSS
aTRUE LIGHT MOON ARTAaCUPIDOaHADESaZEUSaKRONOSaAPOLLONbDMETOSaVULCANUSaPOSEIDON
aLEFT HALF BLACK STARaRIGHT HALF BLACK STARaSTAR WITH LEFT HALF BLACKkRIGHT HALF BLACK
aLEFTWARDS TWO-HEADED ARROW WITH TRIANGLE ARROWHEADS
aUPWARDS TWO-HEADED ARROW WITH TRIANGLE ARROWHEADS
aRIGHTWARDS TWO-HEADED ARROW WITH TRIANGLE ARROWHEADS
aDOWNWARDS TWO-HEADED ARROW WITH TRIANGLE ARROWHEADSaERIS FORM ONEkTWOaSEDNA
aRUSSIAN ASTROLOGICAL SYMBOL VIGINTILEγNOVILEγQUINTILEγBINOVILEγSENTAGONγTREDECILE
aEQUALS SIGN WITH INFINITY BELOWaUNITED SYMBOLaSEPARATED SYMBOLaDOUBLED SYMBOLaPASSED SYMBOL
aREVERSED RIGHT ANGLEaHELLSCHREIBER PAUSE SYMBOLaGLAGOLITIC CAPITAL LETTER AZUαBUKYαVEDEαGLAGOLI
αDOBROαYESTUαZHIVETEαDZELOαZEMLJAαIZHEβNITIAL IZHEβαDJERVIαKAKOαLJUDIJEαMYSLITEαNASHIαONUαPOKOJI
αRITSIαSLOVOαTVRIDOαUKUαFRITUαHERUαOTUαPEαSHTAαTSIαCHRIVIαSHAαYERUδIβATIαSPIDERY HAαYUαSMALL YUS
κ WITH TAILαYOαIOTATED SMALL YUSαBIG YUSαIOTATED BIG YUSαFITAαIZHITSAαSHTAPICαTROKUTASTI A
αLATINATE MYSLITEαCAUDATE CHRIVIlSMALL LETTER AZUyBUKYyVEDEyGLAGOLIyDOBROyYESTUyZHIVETEyDZELO
yZEMLJAyIZHEzNITIAL IZHEzyDJERVIyKAKOyLJUDIJEyMYSLITEyNASHIyONUyPOKOJIyRITSIySLOVOyTVRIDOyUKU
yFRITUyHERUyOTUyPEySHTAyTSIyCHRIVIySHAyYERUβIzATIySPIDERY HAyYUySMALL YUSθ WITH TAILyYO
yIOTATED SMALL YUSyBIG YUSyIOTATED BIG YUSyFITAyIZHITSAySHTAPICyTROKUTASTI AyLATINATE MYSLITE
yCAUDATE CHRIVIaLATIN CAPITAL LETTER L WITH DOUBLE BARgSMALL LETTER L WITH DOUBLE BAR
gCAPITAL LETTER L WITH MIDDLE TILDEvP WITH STROKEvR WITH TAILgSMALL LETTER A WITH STROKE
tT WITH DIAGONAL STROKEgCAPITAL LETTER H WITH DESCENDERgSMALL LETTER H WITH DESCENDER
gCAPITAL LETTER K WITH DESCENDERgSMALL LETTER K WITH DESCENDERgCAPITAL LETTER Z WITH DESCENDER
gSMALL LETTER Z WITH DESCENDERgCAPITAL LETTER ALPHAvM WITH HOOKvTURNED AδLPHA
gSMALL LETTER V WITH RIGHT HOOKgCAPITAL LETTER W WITH HOOKgSMALL LETTER W WITH HOOKtV WITH CURL
gCAPITAL LETTER HALF HgSMALL LETTER HALF HtTAILLESS PHItE WITH NOTCHtTURNED R WITH TAIL
tO WITH LOW RING INSIDEgLETTER SMALL CAPITAL TURNED EgSUBSCRIPT SMALL LETTER J
aMODIFIER LETTER CAPITAL VaLATIN CAPITAL LETTER S WITH SWASH TAILvZ WITH SWASH TAIL
aCOPTIC CAPITAL LETTER ALFAhSMALL LETTER ALFAhCAPITAL LETTER VIDAhSMALL LETTER VIDA
hCAPITAL LETTER GAMMAhSMALL LETTER GAMMAhCAPITAL LETTER DALDAhSMALL LETTER DALDA
hCAPITAL LETTER EIEhSMALL LETTER EIEhCAPITAL LETTER SOUhSMALL LETTER SOUhCAPITAL LETTER ZATA
hSMALL LETTER ZATAhCAPITAL LETTER HATEhSMALL LETTER HATEhCAPITAL LETTER THETHE
hSMALL LETTER THETHEhCAPITAL LETTER IAUDAhSMALL LETTER IAUDAhCAPITAL LETTER KAPA
hSMALL LETTER KAPAhCAPITAL LETTER LAULAhSMALL LETTER LAULAhCAPITAL LETTER MIhSMALL LETTER MI
hCAPITAL LETTER NIhSMALL LETTER NIhCAPITAL LETTER KSIhSMALL LETTER KSIhCAPITAL LETTER O
hSMALL LETTER OhCAPITAL LETTER PIhSMALL LETTER PIhCAPITAL LETTER ROhSMALL LETTER RO
hCAPITAL LETTER SIMAhSMALL LETTER SIMAhCAPITAL LETTER TAUhSMALL LETTER TAUhCAPITAL LETTER UA
hSMALL LETTER UAhCAPITAL LETTER FIhSMALL LETTER FIhCAPITAL LETTER KHIhSMALL LETTER KHI
hCAPITAL LETTER PSIhSMALL LETTER PSIhCAPITAL LETTER OOUhSMALL LETTER OOU
hCAPITAL LETTER DIALECT-P ALEFhSMALL LETTER DIALECT-P ALEFhCAPITAL LETTER OLD COPTIC AIN
hSMALL LETTER OLD COPTIC AINhCAPITAL LETTER CRYPTOGRAMMIC EIEhSMALL LETTER CRYPTOGRAMMIC EIE
hCAPITAL LETTER DIALECT-P KAPAhSMALL LETTER DIALECT-P KAPAhCAPITAL LETTER DIALECT-P NI
hSMALL LETTER DIALECT-P NIhCAPITAL LETTER CRYPTOGRAMMIC NIhSMALL LETTER CRYPTOGRAMMIC NI
hCAPITAL LETTER OLD COPTIC OOUhSMALL LETTER OLD COPTIC OOUhCAPITAL LETTER SAMPI
hSMALL LETTER SAMPIhCAPITAL LETTER CROSSED SHEIhSMALL LETTER CROSSED SHEI
hCAPITAL LETTER OLD COPTIC SHEIhSMALL LETTER OLD COPTIC SHEIhCAPITAL LETTER OLD COPTIC ESH
hSMALL LETTER OLD COPTIC ESHhCAPITAL LETTER AKHMIMIC KHEIhSMALL LETTER AKHMIMIC KHEI
hCAPITAL LETTER DIALECT-P HORIhSMALL LETTER DIALECT-P HORIhCAPITAL LETTER OLD COPTIC HORI
hSMALL LETTER OLD COPTIC HORIhCAPITAL LETTER OLD COPTIC HAhSMALL LETTER OLD COPTIC HA
hCAPITAL LETTER L-SHAPED HAhSMALL LETTER L-SHAPED HAhCAPITAL LETTER OLD COPTIC HEI
hSMALL LETTER OLD COPTIC HEIhCAPITAL LETTER OLD COPTIC HAThSMALL LETTER OLD COPTIC HAT
hCAPITAL LETTER OLD COPTIC GANGIAhSMALL LETTER OLD COPTIC GANGIAhCAPITAL LETTER OLD COPTIC DJA
hSMALL LETTER OLD COPTIC DJAhCAPITAL LETTER OLD COPTIC SHIMAhSMALL LETTER OLD COPTIC SHIMA
hCAPITAL LETTER OLD NUBIAN SHIMAhSMALL LETTER OLD NUBIAN SHIMAhCAPITAL LETTER OLD NUBIAN NGI
hSMALL LETTER OLD NUBIAN NGIhCAPITAL LETTER OLD NUBIAN NYIhSMALL LETTER OLD NUBIAN NYI
hCAPITAL LETTER OLD NUBIAN WAUhSMALL LETTER OLD NUBIAN WAUiYMBOL KAIoMI ROoPI ROoSTAUROSoTAU RO
oKHI ROoSHIMA SIMAhCAPITAL LETTER CRYPTOGRAMMIC SHEIhSMALL LETTER CRYPTOGRAMMIC SHEI
hCAPITAL LETTER CRYPTOGRAMMIC GANGIAhSMALL LETTER CRYPTOGRAMMIC GANGIAhCOMBINING NI ABOVE
rSPIRITUS ASPERαLENISiAPITAL LETTER BOHAIRIC KHEIhSMALL LETTER BOHAIRIC KHEI"),
   (0x2CF9, "aCOPTIC OLD NUBIAN FULL STOPsDIRECT QUESTION MARKsINDIRECT QUESTION MARK
sVERSE DIVIDERhFRACTION ONE HALFiULL STOPhMORPHOLOGICAL DIVIDERaGEORGIAN SMALL LETTER ANwBANwGAN
wDONwENwVINwZENwTANwINwKANwLASwMANwNARwONwPARwZHARwRAEwSANwTARwUNwPHARwKHARwGHANwQARwSHINwCHINxAN
wJILwCILxHARwXANwJHANwHAExExIEwWEwHARxOE"),
   (0x2D27, "aGEORGIAN SMALL LETTER YN"),
   (0x2D2D, "aGEORGIAN SMALL LETTER AEN"),
   (0x2D30, "aTIFINAGH LETTER YAsBtHsGtHHqBERBER ACADEMY YAJqYAJsDtHtDuHrEYrAFsKqTUAREG YAKqYAKHH
sHqBERBER ACADEMY YAHqTUAREG YAHqYAHHsAsKHqTUAREG YAKHqYAQqTUAREG YAQqYIrAZHqAHAGGAR YAZH
qTUAREG YAZHqYALsMsNqTUAREG YAGNzNGqYAPrUrARtRsGHqTUAREG YAGHqAYER YAGHqYAStStHsTtHsCHsTTsVsWsYsZ
qTAWELLEMET YAZqYAZZrErO"),
   (0x2D6F, "aTIFINAGH MODIFIER LETTER LABIALIZATION MARKjSEPARATOR MARK"),
   (0x2D7F, "aTIFINAGH CONSONANT JOINERaETHIOPIC SYLLABLE LOAsMOAsROAsSOAtHOAsBOAsTOAsCOAsNOAtYOA
sGLOTTAL OAsZOAsDOAtDOAsJOAsTHOAsCHOAsPHOAtOAsGGWAvIvEEw"),
   (0x2DA0, "aETHIOPIC SYLLABLE SSAuUuIuAAuEEvuO"),
   (0x2DA8, "aETHIOPIC SYLLABLE CCAuUuIuAAuEEvuO"),
   (0x2DB0, "aETHIOPIC SYLLABLE ZZAuUuIuAAuEEvuO"),
   (0x2DB8, "aETHIOPIC SYLLABLE CCHAvUvIvAAvEEwvO"),
   (0x2DC0, "aETHIOPIC SYLLABLE QYAuUuIuAAuEEvuO"),
   (0x2DC8, "aETHIOPIC SYLLABLE KYAuUuIuAAuEEvuO"),
   (0x2DD0, "aETHIOPIC SYLLABLE XYAuUuIuAAuEEvuO"),
   (0x2DD8, "aETHIOPIC SYLLABLE GYAuUuIuAAuEEvuO"),
   (0x2DE0, "aCOMBINING CYRILLIC LETTER BEαVEαGHEαDEαZHEβEαKAαELβMβNαOαPEαERβSαTEαHAαTSEαCHEαSHA
γCHAαFITAαES-TEαAαIEαDJERVαMONOGRAPH UKαYATβUαIOTIFIED AαLITTLE YUSαBIG YUSαIOTIFIED BIG YUS
aRIGHT ANGLE SUBSTITUTION MARKERmDOTTED SUBSTITUTION MARKERaLEFT SUBSTITUTION BRACKET
aRIGHT SUBSTITUTION BRACKETaLEFT DOTTED SUBSTITUTION BRACKETaRIGHT DOTTED SUBSTITUTION BRACKET
bAISED INTERPOLATION MARKERhDOTTED INTERPOLATION MARKERaDOTTED TRANSPOSITION MARKER
aLEFT TRANSPOSITION BRACKETaRIGHT TRANSPOSITION BRACKETbAISED SQUAREaLEFT RAISED OMISSION BRACKET
aRIGHT RAISED OMISSION BRACKETaEDITORIAL CORONISaPARAGRAPHOSaFORKED PARAGRAPHOS
aREVERSED FORKED PARAGRAPHOSaHYPODIASTOLEaDOTTED OBELOScWNWARDS ANCORAaUPWARDS ANCORA
aDOTTED RIGHT-POINTING ANGLEcUBLE OBLIQUE HYPHENaINVERTED INTERROBANGaPALM BRANCH
aHYPHEN WITH DIAERESISaTILDE WITH RING ABOVEaLEFT LOW PARAPHRASE BRACKET
aRIGHT LOW PARAPHRASE BRACKETaTILDE WITH DOT ABOVEpBELOWaLEFT VERTICAL BAR WITH QUILL
aRIGHT VERTICAL BAR WITH QUILLaTOP LEFT HALF BRACKETeRIGHT HALF BRACKETaBOTTOM LEFT HALF BRACKET
hRIGHT HALF BRACKETaLEFT SIDEWAYS U BRACKETaRIGHT SIDEWAYS U BRACKETaLEFT DOUBLE PARENTHESIS
aRIGHT DOUBLE PARENTHESISaTWO DOTS OVER ONE DOT PUNCTUATIONaONE DOT OVER TWO DOTS PUNCTUATION
aSQUARED FOUR DOT PUNCTUATIONaFIVE DOT MARKaREVERSED QUESTION MARKaVERTICAL TILDEaRING POINT
aWORD SEPARATOR MIDDLE DOTaTURNED COMMAaRAISED DOThCOMMAaTURNED SEMICOLONaDAGGER WITH LEFT GUARD
mRIGHT GUARDaTURNED DAGGERbOP HALF SECTION SIGNbWO-EM DASHbHREE-EM DASHaSTENOGRAPHIC FULL STOP
aVERTICAL SIX DOTSaWIGGLY VERTICAL LINEaCAPITULUMaDOUBLE HYPHENaREVERSED COMMA
aDOUBLE LOW-REVERSED-9 QUOTATION MARKbASH WITH LEFT UPTURNbOUBLE SUSPENSION MARK
aINVERTED LOW KAVYKAt WITH KAVYKA ABOVEaLOW KAVYKAk WITH DOTaDOUBLE STACKED COMMAcTTED SOLIDUS
aTRIPLE DAGGERaMEDIEVAL COMMAaPARAGRAPHUS MARKbUNCTUS ELEVATUS MARKaCORNISH VERSE DIVIDER
bROSS PATTY WITH RIGHT CROSSBARrLEFT CROSSBARaTIRONIAN SIGN CAPITAL ETaMEDIEVAL EXCLAMATION MARK
jQUESTION MARKaLEFT SQUARE BRACKET WITH STROKEaRIGHT SQUARE BRACKET WITH STROKE
aLEFT SQUARE BRACKET WITH DOUBLE STROKEaRIGHT SQUARE BRACKET WITH DOUBLE STROKE
aTOP HALF LEFT PARENTHESISjRIGHT PARENTHESISaBOTTOM HALF LEFT PARENTHESISmRIGHT PARENTHESIS
aOBLIQUE HYPHEN"),
   (0x2E80, "aCJK RADICAL REPEATmCLIFFmSECOND ONEtTWOuHREEmPERSONmBOXmTABLEmKNIFE ONEsTWO
mDIVINATIONmSEALnMALL ONEsTWOmLAME ONErTWOsHREErFOURmSNAKEmTHREADmSNOUT ONEsTWOmHEART ONEsTWOnAND
mRAP"),
   (0x2E9B, "aCJK RADICAL CHOKEmSUNmMOONmDEATHmMOTHERmCIVILIANmWATER ONEsTWOmFIREmPAW ONEqTWO
mSIMPLIFIED HALF TREE TRUNKmCOWmDOGmJADEmBOLT OF CLOTHmEYEmSPIRIT ONEtTWOmBAMBOOmSILK
mC-SIMPLIFIED SILKmNET ONEqTWOrHREEqFOURmMESHmSHEEPmRAMmEWEmOLDmBRUSH ONEsTWOmMEATnORTAR
mGRASS ONEsTWOtHREEmTIGERmCLOTHESmWEST ONErTWOmC-SIMPLIFIED SEEmSIMPLIFIED HORNmHORN
mC-SIMPLIFIED SPEECHαHELLmFOOTmC-SIMPLIFIED CARTmSIMPLIFIED WALKmWALK ONErTWOmCITY
n-SIMPLIFIED GOLDmLONG ONErTWOmC-SIMPLIFIED LONGzGATEmMOUND ONEsTWOmRAINmBLUE
mC-SIMPLIFIED TANNED LEATHERzLEAFzWINDzFLYmEAT ONEqTWOrHREEmC-SIMPLIFIED EATmHEAD
mC-SIMPLIFIED HORSEmBONEmGHOSTmC-SIMPLIFIED FISHzBIRDzSALTmSIMPLIFIED WHEATxYELLOW
mC-SIMPLIFIED FROGmJ-SIMPLIFIED EVENmC-SIMPLIFIED EVENmJ-SIMPLIFIED TOOTHmC-SIMPLIFIED TOOTH
mJ-SIMPLIFIED DRAGONmC-SIMPLIFIED DRAGONmTURTLEmJ-SIMPLIFIED TURTLEmC-SIMPLIFIED TURTLE"),
   (0x2F00, "aKANGXI RADICAL ONEpLINEpDOTpSLASHqECONDpHOOKpTWOpLIDpMANpLEGSpENTERqIGHTpDOWN BOX
pCOVERpICEpTABLEpOPEN BOXpKNIFEpPOWERpWRAPpSPOONpRIGHT OPEN BOXpHIDING ENCLOSUREpTENpDIVINATION
pSEALpCLIFFpPRIVATEpAGAINpMOUTHpENCLOSUREqARTHpSCHOLARpGOr SLOWLYpEVENINGpBIGpWOMANpCHILDpROOF
pINCHpSMALLpLAMEpCORPSEpSPROUTpMOUNTAINpRIVERpWORKpONESELFpTURBANpDRYpSHORT THREADpDOTTED CLIFF
pLONG STRIDEpTWO HANDSpSHOOTpBOWpSNOUTpBRISTLEpSTEPpHEARTqALBERDpDOORpHANDpBRANCHpRAPpSCRIPT
pDIPPERpAXEpSQUAREpNOTpSUNqAYpMOONpTREEpLACKpSTOPpDEATHpWEAPONpDO NOTpCOMPAREpFURpCLANpSTEAM
pWATERpFIREpCLAWpFATHERpDOUBLE XpHALF TREE TRUNKpSLICEpFANGpCOWpDOGpPROFOUNDpJADEpMELONpTILE
pSWEETpLIFEpUSEpFIELDpBOLT OF CLOTHpSICKNESSpDOTTED TENTpWHITEpSKINpDISHpEYEpSPEARpARROWpSTONE
qPIRITpTRACKpGRAINpCAVEpSTANDpBAMBOOpRICEpSILKpJARpNETpSHEEPpFEATHERpOLDpANDpPLOWpEARpBRUSHpMEAT
qINISTERpSELFpARRIVEpMORTARpTONGUEpOPPOSEpBOATpSTOPPINGpCOLORpGRASSpTIGERpINSECTpBLOOD
pWALK ENCLOSUREpCLOTHESpWESTpSEEpHORNpSPEECHpVALLEYpBEANpPIGpBADGERpSHELLpREDqUNpFOOTpBODYpCART
pBITTERpMORNINGpWALKpCITYpWINEpDISTINGUISHpVILLAGEpGOLDpLONGpGATEpMOUNDpSLAVEqHORT TAILED BIRD
pRAINpBLUEpWRONGpFACEpLEATHERpTANNED LEATHERpLEEKpSOUNDpLEAFpWINDpFLYpEATpHEADpFRAGRANTpHORSE
pBONEpTALLpHAIRpFIGHTpSACRIFICIAL WINEpCAULDRONpGHOSTpFISHpBIRDpSALTpDEERpWHEATpHEMPpYELLOW
pMILLETpBLACKpEMBROIDERYpFROGpTRIPODpDRUMpRATpNOSEpEVENpTOOTHpDRAGONpTURTLEpFLUTE"),
   (0x2FF0, "aIDEOGRAPHIC DESCRIPTION CHARACTER LEFT TO RIGHTιABOVE TO BELOW
ιLEFT TO MIDDLE AND RIGHTιABOVE TO MIDDLE AND BELOWιFULL SURROUNDιSURROUND FROM ABOVEχBELOWχLEFT
χUPPER LEFTωPER RIGHTχLOWER LEFTιOVERLAID")]

end DocBraces.Text
