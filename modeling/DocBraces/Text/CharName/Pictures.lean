/-!
# Names of characters: music, mathematical letters, games and pictures

Rows of names of consecutive code points, each row with its first code point. A name
is written as a mark and a tail: the mark says how many characters it shares with the
name before it.
-/

set_option autoImplicit false

namespace DocBraces.Text

def picturesNames : List (Nat × String) :=
  [(0x1D000, "aBYZANTINE MUSICAL SYMBOL PSILIzDASEIAzPERISPOMENIzOXEIA EKFONITIKONζDIPLI
zVAREIA EKFONITIKONηDIPLIzKATHISTIzSYRMATIKIzPARAKLITIKIzYPOKRISISι DIPLIzKREMASTI
zAPESO EKFONITIKONzEXO EKFONITIKONzTELEIAzKENTIMATAzAPOSTROFOSκ DIPLIzSYNEVMAzTHITA
zOLIGON ARCHAIONzGORGON ARCHAIONzPSILONzCHAMILONzVATHYzISON ARCHAIONzKENTIMA ARCHAIONηTA ARCHAION
zSAXIMATAzPARICHONzSTAVROS APODEXIAzOXEIAI ARCHAIONzVAREIAI ARCHAIONzAPODERMA ARCHAIONγTHEMA
zKLASMAzREVMAzPIASMA ARCHAIONzTINAGMAzANATRICHISMAzSEISMAαYNAGMA ARCHAIONθMETA STAVROU
zOYRANISMA ARCHAIONzTHEMAzLEMOIzDYOzTRIAαESSERAzKRATIMATAzAPESO EXO NEOzFTHORA ARCHAIONzIMIFTHORA
zTROMIKON ARCHAIONzKATAVA TROMIKONzPELASTONαSIFISTONzKONTEVMAzCHOREVMA ARCHAIONzRAPISMA
zPARAKALESMA ARCHAIONεLITIKI ARCHAIONzICHADINzNANAzPETASMAzKONTEVMA ALLOzTROMIKON ALLO
zSTRAGGISMATAzGRONTHISMATAzISON NEOzOLIGON NEOαXEIA NEOzPETASTIzKOUFISMAzPETASTOKOUFISMA
zKRATIMOKOUFISMAzPELASTON NEOzKENTIMATA NEO ANOη NEO ANOzYPSILIzAPOSTROFOS NEOιI SYNDESMOS NEO
zYPORROIzKRATIMOYPORROONzELAFRONzCHAMILIzMIKRON ISONzVAREIA NEOzPIASMA NEOαSIFISTON NEOzOMALON
zANTIKENOMAzLYGISMAzPARAKLITIKI NEOεALESMA NEOzETERON PARAKALESMAzKYLISMAzANTIKENOKYLISMA
zTROMIKON NEOzEKSTREPTONzSYNAGMA NEOβRMAzCHOREVMA NEOzEPEGERMAzSEISMA NEOzXIRON KLASMA
zTROMIKOPSIFISTONzPSIFISTOLYGISMAzTROMIKOLYGISMAηPARAKALESMAzPSIFISTOPARAKALESMAzTROMIKOSYNAGMA
zPSIFISTOSYNAGMAzGORGOSYNTHETONzARGOSYNTHETONzETERON ARGOSYNTHETONzOYRANISMA NEOzTHEMATISMOS ESO
νXOε APLOUNγS KAI APOTHESzKATAVASMAzENDOFONONzYFEN KATOεANOzSTAVROSzKLASMA ANOzDIPLI ARCHAION
zKRATIMA ARCHAIONιLLOθNEOzAPODERMA NEOβLIzDIPLIzTRIPLIαETRAPLIzKORONISzLEIMMA ENOS CHRONOU
ηDYO CHRONONηTRION CHRONONθESSARON CHRONONηIMISEOS CHRONOUzGORGON NEO ANOηPARESTIGMENON ARISTERA
υDEXIAzDIGORGONθ PARESTIGMENON ARISTERA KATOωISTERA ANOχDEXIAzTRIGORGONzARGONzIMIDIARGONzDIARGON
zAGOGI POLI ARGIζARGOTERIιIζMETRIAθSIζGORGIκOTERIζPOLI GORGIzMARTYRIA PROTOS ICHOS
ιALLI PROTOS ICHOSιDEYTEROS ICHOSιALLI DEYTEROS ICHOSιTRITOS ICHOSμFONIASκETARTOS ICHOS
ςLEGETOS ICHOSιLEGETOS ICHOSιPLAGIOS ICHOSzISAKIA TELOUS ICHIMATOSzAPOSTROFOI TELOUS ICHIMATOS
zFANEROSIS TETRAFONIASκMONOFONIASκDIFONIASzMARTYRIA VARYS ICHOSιPROTOVARYS ICHOS
κLAGIOS TETARTOS ICHOSzGORTHMIKON N APLOUNνDIPLOUNzENARXIS KAI FTHORA VOUzIMIFONONδTHORON
zFTHORA ARCHAION DEYTEROU ICHOUηDIATONIKI PAρNANAηNAOS ICHOSηDIATONIKI DIηSKLIRON DIATONON DI
ηDIATONIKI KEρZOρNI KATOτANOηMALAKON CHROMA DIFONIASφMONOFONIASαHTORA SKLIRON CHROMA VASIS
αTHORA SKLIRON CHROMA SYNAFIηNENANOzCHROA ZYGOSζKLITONζSPATHIzFTHORA I YFESIS TETARTIMORION
ηENARMONIOS ANTIFONIAzYFESIS TRITIMORIONzDIESIS TRITIMORIONθETARTIMORIONηAPLI DYO DODEKATA
ηMONOGRAMMOS TESSERA DODEKATAηDIGRAMMOS EX DODEKATAηTRIGRAMMOS OKTO DODEKATA
zYFESIS APLI DYO DODEKATAηMONOGRAMMOS TESSERA DODEKATAηDIGRAMMOS EX DODEKATA
ηTRIGRAMMOS OKTO DODEKATAzGENIKI DIESISηYFESISzDIASTOLI APLI MIKRIοEGALIιDIPLIιTHESEOS
zSIMANSIS THESEOSπ DISIMOUρTRISIMOUςETRASIMOUιARSEOSο DISIMOUπTRISIMOUρETRASIMOUzDIGRAMMA GG
βFTOGGOS OUzSTIGMAzARKTIKO PAθVOUθGAθDIθKEθZOθNIzKENTIMATA NEO MESOη NEO MESOηTA NEO KATO
η NEO KATOαLASMA KATOzGORGON NEO KATO"),
   (0x1D100, "aMUSICAL SYMBOL SINGLE BARLINEpDOUBLE BARLINEpFINAL BARLINEpREVERSE FINAL BARLINE
pDASHED BARLINEpSHORT BARLINEpLEFT REPEAT SIGNpRIGHT REPEAT SIGNqEPEAT DOTSpDAL SEGNOr CAPOpSEGNO
pCODApREPEATED FIGURE-1ζ2ζ3pFERMATAw BELOWpBREATH MARKpCAESURApBRACEtKETpONE-LINE STAFF
pTWO-LINE STAFFqHREE-LINE STAFFpFOUR-LINE STAFFqIVE-LINE STAFFpSIX-LINE STAFFtSTRING FRETBOARD
pFOUR-STRING FRETBOARDpG CLEFv OTTAVA ALTAδBASSApC CLEFpF CLEFv OTTAVA ALTAδBASSApDRUM CLEF-1z2"),
   (0x1D129, "aMUSICAL SYMBOL MULTIPLE MEASURE RESTpDOUBLE SHARPwFLATpFLAT UPuDOWNpNATURAL UP
xDOWNpSHARP UPvDOWNpQUARTER TONE SHARPγFLATpCOMMON TIMEqUT TIMEpOTTAVA ALTAwBASSA
pQUINDICESIMA ALTAγBASSApMULTI RESTpWHOLE RESTpHALF RESTpQUARTER RESTpEIGHTH RESTpSIXTEENTH REST
pTHIRTY-SECOND RESTpSIXTY-FOURTH RESTpONE HUNDRED TWENTY-EIGHTH RESTpX NOTEHEADpPLUS NOTEHEAD
pCIRCLE X NOTEHEADpSQUARE NOTEHEAD WHITEζBLACKpTRIANGLE NOTEHEAD UP WHITEλBLACKθLEFT WHITEνBLACK
θRIGHT WHITEξBLACKθDOWN WHITEνBLACKθUP RIGHT WHITEρBLACKpMOON NOTEHEAD WHITEδBLACK
pTRIANGLE-ROUND NOTEHEAD DOWN WHITEσBLACKpPARENTHESIS NOTEHEADpVOID NOTEHEADpNOTEHEAD BLACK
qULL NOTEHEADpCLUSTER NOTEHEAD WHITEηBLACKpBREVEpWHOLE NOTEpHALF NOTEpQUARTER NOTEpEIGHTH NOTE
pSIXTEENTH NOTEpTHIRTY-SECOND NOTEpSIXTY-FOURTH NOTEpONE HUNDRED TWENTY-EIGHTH NOTE
pCOMBINING STEMαPRECHGESANG STEMzTREMOLO-1θ2θ3pFINGERED TREMOLO-1η2η3pCOMBINING AUGMENTATION DOT
zFLAG-1ε2ε3ε4ε5pBEGIN BEAMpEND BEAMpBEGIN TIEpEND TIEpBEGIN SLURpEND SLURpBEGIN PHRASEpEND PHRASE
pCOMBINING ACCENTzSTACCATOzTENUTOzSTACCATISSIMOzMARCATOη-STACCATOzACCENT-STACCATOzLOURE
pARPEGGIATO UPαDOWNpCOMBINING DOITzRIPzFLIPzSMEARzBENDzDOUBLE TONGUEzTRIPLE TONGUEpRINFORZANDO
pSUBITOpZpPIANOpMEZZOpFORTEpCRESCENDOpDECRESCENDOpGRACE NOTE SLASHαNO SLASHpTRqURNpINVERTED TURN
pTURN SLASHuUPpORNAMENT STROKE-1ζ2ζ3ζ4ζ5ζ6ζ7ζ8ζ9ζ10η1pHAUPTSTIMMEpNEBENSTIMMEpEND OF STIMME
pDEGREE SLASHpCOMBINING DOWN BOWzUP BOWzHARMONICzSNAP PIZZICATOpPEDAL MARKvUP MARK
pHALF PEDAL MARKpGLISSANDO UPzDOWNpWITH FINGERNAILSpDAMPt ALLpMAXIMApLONGApBREVIS
pSEMIBREVIS WHITEαBLACKpMINIMAv BLACKpSEMIMINIMA WHITEαBLACKpFUSA WHITEuBLACKpLONGA PERFECTA REST
vIMPERFECTA RESTpBREVIS RESTpSEMIBREVIS RESTpMINIMA RESTpSEMIMINIMA REST
pTEMPUS PERFECTUM CUM PROLATIONE PERFECTAφIMPERFECTAφPERFECTA DIMINUTION-1
wIMPERFECTUM CUM PROLATIONE PERFECTAψIMPERFECTAωMPERFECTA DIMINUTION-1ωMPERFECTA DIMINUTION-2
ωMPERFECTA DIMINUTION-3pCROIXpGREGORIAN C CLEFzF CLEFpSQUARE BpVIRGApPODATUSpCLIVISpSCANDICUS
pCLIMACUSpTORCULUSpPORRECTUSy FLEXUSpSCANDICUS FLEXUSpTORCULUS RESUPINUSpPES SUBPUNCTIS
pKIEVAN C CLEFwEND OF PIECEwFINAL NOTEwRECITATIVE MARKwWHOLE NOTEwHALF NOTE
wQUARTER NOTE STEM DOWNοUPwEIGHTH NOTE STEM DOWNξUPwFLAT SIGNpSORIpKORON"),
   (0x1D200, "aGREEK VOCAL NOTATION SYMBOL-1γ2γ3γ4γ5γ6γ7γ8γ9γ10δ1δ2δ3δ4δ5δ6δ7δ8δ9γ20δ1δ2δ3δ4γ50δ1
δ2δ3δ4gINSTRUMENTAL NOTATION SYMBOL-1κ2κ4κ5κ7κ8κ11λ2λ3λ4λ7λ8λ9κ23λ4λ5λ6λ7λ9κ30λ2λ6λ7λ8λ9κ40λ2λ3λ5
λ7λ8λ9κ50λ1λ2λ3λ4aCOMBINING GREEK MUSICAL TRISEMEzETRASEMEyPENTASEMEaGREEK MUSICAL LEIMMA"),
   (0x1D2E0, "aMAYAN NUMERAL ZEROoONEoTWOpHREEoFOURpIVEoSIXpEVENoEIGHToNINEoTENoELEVENoTWELVE
pHIRTEENoFOURTEENpIFTEENoSIXTEENpEVENTEENoEIGHTEENoNINETEEN"),
   (0x1D300, "aMONOGRAM FOR EARTHaDIGRAM FOR HEAVENLY EARTHmUMAN EARTHlEARTHLY HEAVENuUMANq
aTETRAGRAM FOR CENTREoFULL CIRCLEoMIREDoBARRIERoKEEPING SMALLoCONTRARIETYoASCENToOPPOSITION
oBRANCHING OUToDEFECTIVENESS OR DISTORTIONpIVERGENCEoYOUTHFULNESSoINCREASEoPENETRATIONoREACH
oCONTACToHOLDING BACKoWAITINGoFOLLOWINGoADVANCEoRELEASEqSISTANCEoEASEoJOYoCONTENTIONoENDEAVOUR
oDUTIESoCHANGEoDECISIVENESSoBOLD RESOLUTIONoPACKINGoLEGIONoCLOSENESSoKINSHIPoGATHERINGoSTRENGTH
oPURITYoFULLNESSoRESIDENCEoLAW OR MODELoRESPONSEoGOING TO MEEToENCOUNTERSoSTOVEoGREATNESS
oENLARGEMENToPATTERNoRITUALoFLIGHToVASTNESS OR WASTINGoCONSTANCYoMEASUREoETERNITYoUNITY
oDIMINISHMENToCLOSED MOUTHoGUARDEDNESSpATHERING INoMASSINGoACCUMULATIONoEMBELLISHMENToDOUBToWATCH
oSINKINGoINNERoDEPARTUREpARKENINGpIMMINGoEXHAUSTIONoSEVERANCEpTOPPAGEoHARDNESSoCOMPLETIONpLOSURE
oFAILUREoAGGRAVATIONoCOMPLIANCEoON THE VERGEoDIFFICULTIESoLABOURINGoFOSTERING"),
   (0x1D360, "aCOUNTING ROD UNIT DIGIT ONEyTWOzHREEyFOURzIVEySIXzEVENyEIGHTyNINEnTENS DIGIT ONE
yTWOzHREEyFOURzIVEySIXzEVENyEIGHTyNINEaIDEOGRAPHIC TALLY MARK ONExTWOyHREExFOURyIVE
aTALLY MARK ONElFIVE"),
   (0x1D400, "aMATHEMATICAL BOLD CAPITAL AαBαCαDαEαFαGαHαIαJαKαLαMαNαOαPαQαRαSαTαUαVαWαXαYαZ
sSMALL AyByCyDyEyFyGyHyIyJyKyLyMyNyOyPyQyRySyTyUyVyWyXyYyZnITALIC CAPITAL AγBγCγDγEγFγGγHγIγJγKγL
γMγNγOγPγQγRγSγTγUγVγWγXγYγZuSMALL AαBαCαDαEαFαG"),
   (0x1D456, "aMATHEMATICAL ITALIC SMALL IαJαKαLαMαNαOαPαQαRαSαTαUαVαWαXαYαZ
nBOLD ITALIC CAPITAL AθBθCθDθEθFθGθHθIθJθKθLθMθNθOθPθQθRθSθTθUθVθWθXθYθZzSMALL AζBζCζDζEζFζGζHζI
ζJζKζLζMζNζOζPζQζRζSζTζUζVζWζXζYζZnSCRIPT CAPITAL A"),
   (0x1D49E, "aMATHEMATICAL SCRIPT CAPITAL CγD"),
   (0x1D4A2, "aMATHEMATICAL SCRIPT CAPITAL G"),
   (0x1D4A5, "aMATHEMATICAL SCRIPT CAPITAL JγK"),
   (0x1D4A9, "aMATHEMATICAL SCRIPT CAPITAL NγOγPγQ"),
   (0x1D4AE, "aMATHEMATICAL SCRIPT CAPITAL SγTγUγVγWγXγYγZuSMALL AαBαCαD"),
   (0x1D4BB, "aMATHEMATICAL SCRIPT SMALL F"),
   (0x1D4BD, "aMATHEMATICAL SCRIPT SMALL HαIαJαKαLαMαN"),
   (0x1D4C5, "aMATHEMATICAL SCRIPT SMALL PαQαRαSαTαUαVαWαXαYαZnBOLD SCRIPT CAPITAL AθBθCθDθEθFθG
θHθIθJθKθLθMθNθOθPθQθRθSθTθUθVθWθXθYθZzSMALL AζBζCζDζEζFζGζHζIζJζKζLζMζNζOζPζQζRζSζTζUζVζWζXζYζZ
nFRAKTUR CAPITAL AδB"),
   (0x1D507, "aMATHEMATICAL FRAKTUR CAPITAL DδEδFδG"),
   (0x1D50D, "aMATHEMATICAL FRAKTUR CAPITAL JδKδLδMδNδOδPδQ"),
   (0x1D516, "aMATHEMATICAL FRAKTUR CAPITAL SδTδUδVδWδXδY"),
   (0x1D51E, "aMATHEMATICAL FRAKTUR SMALL AβBβCβDβEβFβGβHβIβJβKβLβMβNβOβPβQβRβSβTβUβVβWβXβYβZ
nDOUBLE-STRUCK CAPITAL AκB"),
   (0x1D53B, "aMATHEMATICAL DOUBLE-STRUCK CAPITAL DκEκFκG"),
   (0x1D540, "aMATHEMATICAL DOUBLE-STRUCK CAPITAL IκJκKκLκM"),
   (0x1D546, "aMATHEMATICAL DOUBLE-STRUCK CAPITAL O"),
   (0x1D54A, "aMATHEMATICAL DOUBLE-STRUCK CAPITAL SκTκUκVκWκXκY"),
   (0x1D552, "aMATHEMATICAL DOUBLE-STRUCK SMALL AθBθCθDθEθFθGθHθIθJθKθLθMθNθOθPθQθRθSθTθUθVθWθXθY
θZnBOLD FRAKTUR CAPITAL AιBιCιDιEιFιGιHιIιJιKιLιMιNιOιPιQιRιSιTιUιVιWιXιYιZαSMALL AηBηCηDηEηFηGηH
ηIηJηKηLηMηNηOηPηQηRηSηTηUηVηWηXηYηZnSANS-SERIF CAPITAL AηBηCηDηEηFηGηHηIηJηKηLηMηNηOηPηQηRηSηTηU
ηVηWηXηYηZySMALL AεBεCεDεEεFεGεHεIεJεKεLεMεNεOεPεQεRεSεTεUεVεWεXεYεZyBOLD CAPITAL AμBμCμDμEμFμGμH
μIμJμKμLμMμNμOμPμQμRμSμTμUμVμWμXμYμZδSMALL AκBκCκDκEκFκGκHκIκJκKκLκMκNκOκPκQκRκSκTκUκVκWκXκYκZ
yITALIC CAPITAL AξBξCξDξEξFξGξHξIξJξKξLξMξNξOξPξQξRξSξTξUξVξWξXξYξZζSMALL AμBμCμDμEμFμGμHμIμJμKμL
μMμNμOμPμQμRμSμTμUμVμWμXμYμZyBOLD ITALIC CAPITAL AσBσCσDσEσFσGσHσIσJσKσLσMσNσOσPσQσRσSσTσUσVσWσX
σYσZλSMALL AρBρCρDρEρFρGρHρIρJρKρLρMρNρOρPρQρRρSρTρUρVρWρXρYρZnMONOSPACE CAPITAL AζBζCζDζEζFζGζH
ζIζJζKζLζMζNζOζPζQζRζSζTζUζVζWζXζYζZxSMALL AδBδCδDδEδFδGδHδIδJδKδLδMδNδOδPδQδRδSδTδUδVδWδXδYδZ
nITALIC SMALL DOTLESS IιJ"),
   (0x1D6A8, "aMATHEMATICAL BOLD CAPITAL ALPHAαBETAαGAMMAαDELTAαEPSILONαZETAαETAαTHETAαIOTAαKAPPA
αLAMDAαMUαNUαXIαOMICRONαPIαRHOαTHETA SYMBOLαSIGMAαTAUαUPSILONαPHIαCHIαPSIαOMEGAsNABLAsSMALL ALPHA
yBETAyGAMMAyDELTAyEPSILONyZETAyETAyTHETAyIOTAyKAPPAyLAMDAyMUyNUyXIyOMICRONyPIyRHOyFINAL SIGMA
ySIGMAyTAUyUPSILONyPHIyCHIyPSIyOMEGAsPARTIAL DIFFERENTIALsEPSILON SYMBOLsTHETA SYMBOL
sKAPPA SYMBOLsPHI SYMBOLsRHO SYMBOLsPI SYMBOLnITALIC CAPITAL ALPHAγBETAγGAMMAγDELTAγEPSILONγZETA
γETAγTHETAγIOTAγKAPPAγLAMDAγMUγNUγXIγOMICRONγPIγRHOγTHETA SYMBOLγSIGMAγTAUγUPSILONγPHIγCHIγPSI
γOMEGAuNABLAuSMALL ALPHAαBETAαGAMMAαDELTAαEPSILONαZETAαETAαTHETAαIOTAαKAPPAαLAMDAαMUαNUαXI
αOMICRONαPIαRHOαFINAL SIGMAαSIGMAαTAUαUPSILONαPHIαCHIαPSIαOMEGAuPARTIAL DIFFERENTIAL
uEPSILON SYMBOLuTHETA SYMBOLuKAPPA SYMBOLuPHI SYMBOLuRHO SYMBOLuPI SYMBOL
nBOLD ITALIC CAPITAL ALPHAθBETAθGAMMAθDELTAθEPSILONθZETAθETAθTHETAθIOTAθKAPPAθLAMDAθMUθNUθXI
θOMICRONθPIθRHOθTHETA SYMBOLθSIGMAθTAUθUPSILONθPHIθCHIθPSIθOMEGAzNABLAzSMALL ALPHAζBETAζGAMMA
ζDELTAζEPSILONζZETAζETAζTHETAζIOTAζKAPPAζLAMDAζMUζNUζXIζOMICRONζPIζRHOζFINAL SIGMAζSIGMAζTAU
ζUPSILONζPHIζCHIζPSIζOMEGAzPARTIAL DIFFERENTIALzEPSILON SYMBOLzTHETA SYMBOLzKAPPA SYMBOL
zPHI SYMBOLzRHO SYMBOLzPI SYMBOLnSANS-SERIF BOLD CAPITAL ALPHAμBETAμGAMMAμDELTAμEPSILONμZETAμETA
μTHETAμIOTAμKAPPAμLAMDAμMUμNUμXIμOMICRONμPIμRHOμTHETA SYMBOLμSIGMAμTAUμUPSILONμPHIμCHIμPSIμOMEGA
δNABLAδSMALL ALPHAκBETAκGAMMAκDELTAκEPSILONκZETAκETAκTHETAκIOTAκKAPPAκLAMDAκMUκNUκXIκOMICRONκPI
κRHOκFINAL SIGMAκSIGMAκTAUκUPSILONκPHIκCHIκPSIκOMEGAδPARTIAL DIFFERENTIALδEPSILON SYMBOL
δTHETA SYMBOLδKAPPA SYMBOLδPHI SYMBOLδRHO SYMBOLδPI SYMBOLδITALIC CAPITAL ALPHAσBETAσGAMMAσDELTA
σEPSILONσZETAσETAσTHETAσIOTAσKAPPAσLAMDAσMUσNUσXIσOMICRONσPIσRHOσTHETA SYMBOLσSIGMAσTAUσUPSILON
σPHIσCHIσPSIσOMEGAλNABLAλSMALL ALPHAρBETAρGAMMAρDELTAρEPSILONρZETAρETAρTHETAρIOTAρKAPPAρLAMDAρMU
ρNUρXIρOMICRONρPIρRHOρFINAL SIGMAρSIGMAρTAUρUPSILONρPHIρCHIρPSIρOMEGAλPARTIAL DIFFERENTIAL
λEPSILON SYMBOLλTHETA SYMBOLλKAPPA SYMBOLλPHI SYMBOLλRHO SYMBOLλPI SYMBOLnBOLD CAPITAL DIGAMMA
sSMALL DIGAMMA"),
   (0x1D7CE, "aMATHEMATICAL BOLD DIGIT ZEROyONEyTWOzHREEyFOURzIVEySIXzEVENyEIGHTyNINE
nDOUBLE-STRUCK DIGIT ZEROθONEθTWOιHREEθFOURιIVEθSIXιEVENθEIGHTθNINEnSANS-SERIF DIGIT ZEROεONEεTWO
ζHREEεFOURζIVEεSIXζEVENεEIGHTεNINEyBOLD DIGIT ZEROκONEκTWOλHREEκFOURλIVEκSIXλEVENκEIGHTκNINE
nMONOSPACE DIGIT ZEROδONEδTWOεHREEδFOURεIVEδSIXεEVENδEIGHTδNINEaSIGNWRITING HAND-FIST INDEX
rCIRCLE INDEXsUP INDEXrOVAL INDEXrHINGE INDEXrANGLE INDEXrFIST INDEX BENTrCIRCLE INDEX BENT
rFIST THUMB UNDER INDEX BENTwINDEX RAISED KNUCKLEγCUPPEDγHINGEDι LOWrCIRCLE INDEX HINGE
rFIST INDEX MIDDLErCIRCLE INDEX MIDDLErFIST INDEX MIDDLE BENTκRAISED KNUCKLESκHINGED
γUP MIDDLE HINGEDγHINGED MIDDLE UPγMIDDLE CONJOINEDσ INDEX BENTτMIDDLE BENTτCUPPEDτHINGEDλROSSED
rCIRCLE INDEX MIDDLE CROSSEDrFIST MIDDLE BENT OVER INDEXwINDEX BENT OVER MIDDLEγMIDDLE THUMB
rCIRCLE INDEX MIDDLE THUMBrFIST INDEX MIDDLE STRAIGHT THUMB BENTκBENT THUMB STRAIGHTκTHUMB BENT
κHINGED SPREAD THUMB SIDEγUP MIDDLE HINGED THUMB SIDEω CONJOINEDγHINGED MIDDLE UP THUMB SIDE
γMIDDLE UP SPREAD THUMB FORWARDκTHUMB CUPPEDρIRCLEDπHOOKEDρINGED
wTHUMB BETWEEN INDEX MIDDLE STRAIGHTwINDEX MIDDLE CONJOINED THUMB SIDEω SIDE CONJOINEDω SIDE BENT
wMIDDLE THUMB HOOKED INDEX UPwINDEX THUMB HOOKED MIDDLE UPγMIDDLE CONJOINED HINGED THUMB SIDE
λROSSED THUMB SIDEλONJOINED THUMB FORWARDτCUPPED THUMB FORWARDwMIDDLE THUMB CUPPED INDEX UP
wINDEX THUMB CUPPED MIDDLE UPwMIDDLE THUMB CIRCLED INDEX UPψHINGED
wINDEX THUMB ANGLED OUT MIDDLE UPπIN MIDDLE UPιCIRCLED MIDDLE UPγMIDDLE THUMB CONJOINED HINGED
πANGLED OUTφwMIDDLE THUMB ANGLED OUT INDEX UPωX CROSSEDρINDEX UPwINDEX THUMB HOOKED MIDDLE HINGED
sLAT FOUR FINGERSι BENTκHINGEDκCONJOINEDσ SPLITrCLAW FOUR FINGERS CONJOINED
rFIST FOUR FINGERS CONJOINED BENTrHINGE FOUR FINGERS CONJOINEDrFLAT FIVE FINGERS SPREAD
wHEEL FIVE FINGERS SPREADwFIVE FINGERS SPREAD FOUR BENTwHEEL FIVE FINGERS SPREAD FOUR BENT
wFIVE FINGERS SPREAD BENTwHEEL FIVE FINGERS SPREAD BENTwFIVE FINGERS SPREAD THUMB FORWARD
rCUP FIVE FINGERS SPREADο OPENrHINGE FIVE FINGERS SPREAD OPENrOVAL FIVE FINGERS SPREAD
rFLAT FIVE FINGERS SPREAD HINGEDχ THUMB SIDEψNO THUMBvv BETWEEN PALM FACINGSwHEELwTHUMB SIDE
wHEEL THUMB SIDEwTHUMB BENTγFORWARDwSPLIT INDEX THUMB SIDEγCENTREι THUMB SIDEτ BENTγLITTLErCLAW
v THUMB SIDEwNO THUMBwTHUMB FORWARDrHOOK CURLICUEvrCUP OPENuu OPEN THUMB SIDEvTHUMB SIDE
vOPEN NO THUMBvNO THUMBvOPEN THUMB FORWARDvTHUMB FORWARDtRLICUE OPENzsIRCLErOVALv THUMB SIDE
wNO THUMBwTHUMB FORWARDrHINGE OPENβ THUMB FORWARDww SMALLxOPEN THUMB SIDExTHUMB SIDE
xOPEN NO THUMBxNO THUMBxTHUMB SIDE TOUCHING INDEXδBETWEEN MIDDLE RINGrANGLE
rFIST INDEX MIDDLE RINGrCIRCLE INDEX MIDDLE RINGrHINGE INDEX MIDDLE RINGrANGLE INDEX MIDDLE RING
rHINGE LITTLErFIST INDEX MIDDLE RING BENTοCONJOINEDrHINGE INDEX MIDDLE RING CONJOINED
rFIST LITTLE DOWNθ RIPPLE STRAIGHTπCURVEDιOTHERS CIRCLEDδUPwTHUMB UNDER LITTLE UP
rCIRCLE LITTLE UPrOVAL LITTLE UPrANGLE LITTLE UPrFIST LITTLE RAISED KNUCKLEδBENTδTOUCHES THUMB
εHUMBrHINGE LITTLE THUMBrFIST LITTLE INDEX THUMBrHINGE LITTLE INDEX THUMB
rANGLE LITTLE INDEX THUMB INDEX THUMB OUTωUMBrFIST LITTLE INDEXrCIRCLE LITTLE INDEX
rHINGE LITTLE INDEXrANGLE LITTLE INDEXrFIST INDEX MIDDLE LITTLErCIRCLE INDEX MIDDLE LITTLE
rHINGE INDEX MIDDLE LITTLExRINGrANGLE INDEX MIDDLE LITTLErFIST INDEX MIDDLE CROSS LITTLE
rCIRCLE INDEX MIDDLE CROSS LITTLErFIST RING DOWNrHINGE RING DOWN INDEX THUMB HOOK MIDDLE
rANGLE RING DOWN MIDDLE THUMB INDEX CROSSrFIST RING UPβRAISED KNUCKLEβLITTLErCIRCLE RING LITTLE
rOVAL RING LITTLErANGLE RING LITTLErFIST RING MIDDLEθ CONJOINEDιRAISED KNUCKLESβINDEXβTHUMB
rHOOK RING THUMBrFIST INDEX RING LITTLErCIRCLE INDEX RING LITTLEsURLICUE INDEX RING LITTLE ON
rHOOK INDEX RING LITTLE OUTοINοUNDERrCUP INDEX RING LITTLErHINGE INDEX RING LITTLE
rANGLE INDEX RING LITTLE OUTοrFIST MIDDLE DOWNrHINGE MIDDLErFIST MIDDLE UPrCIRCLE MIDDLE UP
rFIST MIDDLE RAISED KNUCKLEδUP THUMB SIDErHOOK MIDDLE THUMBrFIST MIDDLE THUMB LITTLEδLITTLE
δRING LITTLErCIRCLE MIDDLE RING LITTLEsURLICUE MIDDLE RING LITTLE ONtP MIDDLE RING LITTLE
rHINGE MIDDLE RING LITTLErANGLE MIDDLE RING LITTLE OUTρINπrCIRCLE MIDDLE RING LITTLE BENT
sLAW MIDDLE RING LITTLE CONJOINEDω SIDErHOOK MIDDLE RING LITTLE CONJOINED OUTω INω
sINGE INDEX HINGEDrFIST INDEX THUMB SIDErHINGE INDEX THUMB SIDE
rFIST INDEX THUMB SIDE THUMB DIAGONALτCONJOINEDτBENTξINDEX BENTξBOTH BENTξINDEX HINGE
ιFORWARD INDEX STRAIGHTχBENTιHOOKιCURLICUEμVE THUMB INSIDErCLAW INDEX THUMB CURVE THUMB INSIDE
rFIST INDEX THUMB CURVE THUMB UNDERκIRCLErCUP INDEX THUMBη OPENrHINGE INDEX THUMB OPENκLARGEι
ι SMALLrANGLE INDEX THUMB OUTκINιrFIST THUMBβ HEELγSIDE DIAGONALθCONJOINEDθBENTγFORWARD
γBETWEEN INDEX MIDDLEλMIDDLE RINGλRING LITTLEγUNDER TWO FINGERSγOVER TWO FINGERS
γUNDER THREE FINGERSιFOUR FINGERSγOVER FOUR RAISED KNUCKLESvv HEELmTOUCH SINGLEsMULTIPLEsBETWEEN
mGRASP SINGLEsMULTIPLEsBETWEENmSTRIKE SINGLEtMULTIPLEtBETWEENmBRUSH SINGLEsMULTIPLEsBETWEEN
mRUB SINGLEqMULTIPLEqBETWEENmSURFACE SYMBOLSuBETWEENnQUEEZE LARGE SINGLEuSMALL SINGLE
uLARGE MULTIPLEuSMALL MULTIPLEvEQUENTIALmFLICK LARGE SINGLEsSMALL SINGLEsLARGE MULTIPLE
sSMALL MULTIPLEtEQUENTIALmSQUEEZE FLICK ALTERNATINGmMOVEMENT-HINGE UP DOWN LARGEκSMALLεSEQUENTIAL
βDOWN SEQUENTIALβUP DOWN ALTERNATING LARGEφSMALLβSIDE TO SIDE SCISSORSvWALLPLANE FINGER CONTACT
vFLOORPLANE FINGER CONTACTvWALLPLANE SINGLE STRAIGHT SMALLφMEDIUMφLARGEωGESTνWRIST FLEX
ζDOUBLE STRAIGHTνWRIST FLEXνALTERNATINGψ WRIST FLEXζCROSSζTRIPLE STRAIGHT MOVEMENTνWRIST FLEX
νALTERNATINGψ WRIST FLEXζBEND SMALLλMEDIUMλLARGEζCORNER SMALLνMEDIUMνLARGEνROTATIONηHECK SMALL
μMEDIUMμLARGEζBOX SMALLκMEDIUMκLARGEζZIGZAG SMALLνMEDIUMνLARGEζPEAKS SMALLμMEDIUMμLARGE
mTRAVEL-WALLPLANE ROTATION-WALLPLANE SINGLEχDOUBLEχALTERNATINGνFLOORPLANE SINGLEψDOUBLE
ψALTERNATINGδSHAKINGδARM SPIRAL SINGLEοDOUBLEοTRIPLEmMOVEMENT-DIAGONAL AWAY SMALLκMEDIUMκLARGEοST
εTOWARDS SMALLνMEDIUMνLARGEςSTεBETWEEN AWAY SMALLςMEDIUMςLARGEχSTνTOWARDS SMALLυMEDIUMυLARGEωEST
vFLOORPLANE SINGLE STRAIGHT SMALLχMEDIUMχLARGEωRGESTξWRIST FLEXηDOUBLE STRAIGHTξWRIST FLEX
ξALTERNATINGω WRIST FLEXηCROSSηTRIPLE STRAIGHT MOVEMENTξWRIST FLEXξALTERNATING MOVEMENT
ω WRIST FLEXηBENDηCORNER SMALLξMEDIUMξLARGEθHECKηBOX SMALLλMEDIUMλLARGEηZIGZAG SMALLξMEDIUMξLARGE
ηPEAKS SMALLνMEDIUMνLARGEmTRAVEL-FLOORPLANE ROTATION-FLOORPLANE SINGLEωDOUBLEωALTERNATING
ξWALLPLANE SINGLEψDOUBLEψALTERNATINGεSHAKINGmMOVEMENT-WALLPLANE CURVE QUARTER SMALLτMEDIUMτLARGE
ωSTμHALF-CIRCLE SMALLψMEDIUMψLARGEωARGESTμTHREE-QUARTER CIRCLE SMALLω CIRCLE MEDIUMζHUMP SMALL
λMEDIUMλLARGEζLOOP SMALLλMEDIUMλLARGEλSMALL DOUBLEζWAVE CURVE DOUBLE SMALLψMEDIUMψLARGE
ρTRIPLE SMALLψMEDIUMψLARGEζCURVE THEN STRAIGHTλD CROSS SMALLσMEDIUMmROTATION-WALLPLANE SINGLE
ζDOUBLEζALTERNATEmMOVEMENT-WALLPLANE SHAKINGζCURVE HITTING FRONT WALLζHUMP HITTING FRONT WALL
ζLOOP HITTING FRONT WALLζWAVE HITTING FRONT WALLmROTATION-WALLPLANE SINGLE HITTING FRONT WALL
ζDOUBLE HITTING FRONT WALLζALTERNATING HITTING FRONT WALLmMOVEMENT-WALLPLANE CURVE HITTING CHEST
ζHUMP HITTING CHESTζLOOP HITTING CHESTζWAVE HITTING CHESTmROTATION-WALLPLANE SINGLE HITTING CHEST
ζDOUBLE HITTING CHESTζALTERNATING HITTING CHESTmMOVEMENT-WALLPLANE WAVE DIAGONAL PATH SMALL
ωMEDIUMωLARGEvFLOORPLANE CURVE HITTING CEILING SMALLωING LARGEηHUMP HITTING CEILING SMALL DOUBLE
ωNG LARGE DOUBLEωNG SMALL TRIPLEωNG LARGE TRIPLEηLOOP HITTING CEILING SMALL SINGLE
ωNG LARGE SINGLEωNG SMALL DOUBLEωNG LARGE DOUBLEηWAVE HITTING CEILING SMALLωNG LARGE
mROTATION-FLOORPLANE SINGLE HITTING CEILINGηDOUBLE HITTING CEILINGηALTERNATING HITTING CEILING
mMOVEMENT-FLOORPLANE CURVE HITTING FLOOR SMALLωR LARGEηHUMP HITTING FLOOR SMALL DOUBLE
ω LARGE DOUBLEω TRIPLE SMALL TRIPLEω TRIPLE LARGE TRIPLEηLOOP HITTING FLOOR SMALL SINGLE
ω LARGE SINGLEω SMALL DOUBLEω LARGE DOUBLEηWAVE HITTING FLOOR SMALLω LARGE
mROTATION-FLOORPLANE SINGLE HITTING FLOORηDOUBLE HITTING FLOORηALTERNATING HITTING FLOOR
mMOVEMENT-FLOORPLANE CURVE SMALLνMEDIUMνLARGEςSTνCOMBINEDηHUMP SMALLηLOOP SMALLηWAVE SNAKEνMALL
μLARGEmROTATION-FLOORPLANE SINGLEηDOUBLEηALTERNATINGmMOVEMENT-FLOORPLANE SHAKING PARALLEL
vWALLPLANE ARM CIRCLE SMALL SINGLEρMEDIUM SINGLEρSMALL DOUBLEρMEDIUM DOUBLE
vFLOORPLANE ARM CIRCLE HITTING WALL SMALL SINGLEω WALL MEDIUM SINGLEω WALL LARGE SINGLE
ω WALL SMALL DOUBLEω WALL MEDIUM DOUBLEω WALL LARGE DOUBLEvWALLPLANE WRIST CIRCLE FRONT SINGLE
ωDOUBLEvFLOORPLANE WRIST CIRCLE HITTING WALL SINGLEωNG WALL DOUBLE
vWALLPLANE FINGER CIRCLES SINGLEυDOUBLEvFLOORPLANE FINGER CIRCLES HITTING WALL SINGLE
ωTING WALL DOUBLEmDYNAMIC ARROWHEAD SMALLεLARGEuFASTuSLOWuTENSEuRELAXEDuSIMULTANEOUSη ALTERNATING
uEVERY OTHER TIMEuGRADUALmHEADq RIMrMOVEMENT-WALLPLANE STRAIGHTλTILTαFLOORPLANE STRAIGHT
αWALLPLANE CURVEαFLOORPLANE CURVEz CIRCLEmFACE DIRECTION POSITION NOSE FORWARD TILTINGπUP OR DOWN
ωN TILTINGmEYEBROWS STRAIGHT UPεNEUTRALεDOWNmDREAMY EYEBROWS NEUTRAL DOWNγDOWN NEUTRALγUP NEUTRAL
γNEUTRAL UPmFOREHEAD NEUTRALvCONTACTvWRINKLEDmEYES OPENrSQUEEZEDrCLOSEDp BLINK SINGLEwMULTIPLE
pS HALF OPENrWIDE OPENrHALF CLOSEDrWIDENING MOVEMENTp WINKpLASHES UPwDOWNwFLUTTERING
pGAZE-WALLPLANE STRAIGHTν DOUBLEξALTERNATINGuFLOORPLANE STRAIGHTξ DOUBLEοALTERNATING
uWALLPLANE CURVEDuFLOORPLANE CURVEDuWALLPLANE CIRCLINGmCHEEKS PUFFEDtNEUTRALtSUCKED
mTENSE CHEEKS HIGHzMIDDLEzLOWmEARSmNOSE NEUTRALrCONTACTrWRINKLESsIGGLESmAIR BLOWING OUT
qSUCKING INqBLOW SMALL ROTATIONSqSUCK SMALL ROTATIONSmBREATH INHALEtEXHALEmMOUTH CLOSED NEUTRAL
zFORWARDzCONTACTsSMILEx WRINKLEDyOPENsFROWNx WRINKLEDyOPENsOPEN CIRCLExFORWARDxWRINKLEDxOVAL
β WRINKLEDγYAWNxRECTANGLEη WRINKLEDθYAWNsKISSw FORWARDxWRINKLEDsTENSEx FORWARDySUCKED
mLIPS PRESSED TOGETHERp LOWER OVER UPPERqUPPER OVER LOWERmMOUTH CORNERSsWRINKLES SINGLEβDOUBLE
mTONGUE STICKING OUT FARtLICKING LIPStTIP BETWEEN LIPSxTOUCHING INSIDE MOUTHtINSIDE MOUTH RELAXED
tMOVES AGAINST CHEEKtCENTRE STICKING OUTαINSIDE MOUTHnEETHr MOVEMENTsON TONGUEβ MOVEMENTvLIPS
z MOVEMENTsBITE LIPSmMOVEMENT-WALLPLANE JAWvFLOORPLANE JAWmNECKmHAIRmEXCITEMENT
mSHOULDER HIP SPINEzPOSITIONSmWALLPLANE SHOULDER HIP MOVEmFLOORPLANE SHOULDER HIP MOVE
mSHOULDER TILTING FROM WAISTmTORSO-WALLPLANE STRAIGHT STRETCHγCURVED BENDsFLOORPLANE TWISTING
mUPPER BODY TILTING FROM HIP JOINTSmLIMB COMBINATIONrLENGTH-1y2y3y4y5y6y7mFINGER
mLOCATION-WALLPLANE SPACEvFLOORPLANE SPACEu HEIGHTvWIDTHvDEPTHvHEAD NECKvTORSOvLIMBS DIGITSmCOMMA
mFULL STOPmSEMICOLONmCOLONmPARENTHESIS"),
   (0x1DA9B, "aSIGNWRITING FILL MODIFIER-2α3α4α5α6"),
   (0x1DAA1, "aSIGNWRITING ROTATION MODIFIER-2ε3ε4ε5ε6ε7ε8ε9ε10ζ1ζ2ζ3ζ4ζ5ζ6"),
   (0x1DF00, "aLATIN SMALL LETTER FENG DIGRAPH WITH TRILLtREVERSED SCRIPT G
gLETTER SMALL CAPITAL TURNED GgSMALL LETTER REVERSED KgLETTER SMALL CAPITAL L WITH BELT
gSMALL LETTER LEZH WITH RETROFLEX HOOKtTURNED Y WITH BELTtREVERSED ENG
tTURNED R WITH LONG LEG AND RETROFLEX HOOKu WITH HOOK AND RETROFLEX HOOK
gLETTER RETROFLEX CLICK WITH RETROFLEX HOOKgSMALL LETTER ESH WITH DOUBLE BARν AND CURL
tTURNED T WITH CURLgLETTER INVERTED GLOTTAL STOP WITH CURLnSTRETCHED C WITH CURL
oMALL CAPITAL TURNED KgSMALL LETTER L WITH FISHHOOKtDEZH DIGRAPH WITH PALATAL HOOK
tL WITH BELT AND PALATAL HOOKtENG WITH PALATAL HOOKtTURNED R WITH PALATAL HOOK
tR WITH FISHHOOK AND PALATAL HOOKtTESH DIGRAPH WITH PALATAL HOOKtEZH WITH PALATAL HOOK
tDEZH DIGRAPH WITH RETROFLEX HOOKtI WITH STROKE AND RETROFLEX HOOKtO WITH RETROFLEX HOOK
tTESH DIGRAPH WITH RETROFLEX HOOKtC WITH RETROFLEX HOOKtS WITH CURL"),
   (0x1E000, "aCOMBINING GLAGOLITIC LETTER AZUγBUKYγVEDEγGLAGOLIγDOBROγYESTUγZHIVETE"),
   (0x1E008, "aCOMBINING GLAGOLITIC LETTER ZEMLJAγIZHEδNITIAL IZHEδγDJERVIγKAKOγLJUDIJEγMYSLITE
γNASHIγONUγPOKOJIγRITSIγSLOVOγTVRIDOγUKUγFRITUγHERU"),
   (0x1E01B, "aCOMBINING GLAGOLITIC LETTER SHTAγTSIγCHRIVIγSHAγYERUζIδATI"),
   (0x1E023, "aCOMBINING GLAGOLITIC LETTER YUγSMALL YUS"),
   (0x1E026, "aCOMBINING GLAGOLITIC LETTER YOγIOTATED SMALL YUSγBIG YUSγIOTATED BIG YUSγFITA"),
   (0x1E100, "aNYIAKENG PUACHUE HMONG LETTER MAεTSAεNTAεTAεHAεNAεXAεNKAεCAεLAεSAεZAεNCAζTSAεKAεDA
εNYAζRAεVAεNTXAεTXAεFAεRAεQAεYAεNQAεPAεXYAεNPAεDLAεNPLAεHAHεMLAεPLAεGAεRRAεAζAεIεUεOζOεEζEεW"),
   (0x1E130, "aNYIAKENG PUACHUE HMONG TONE-BγMγJγVγSγGγDxSIGN FOR PERSONηTHINGηLOCATIONηANIMAL
ηINVERTEBRATEγXW XWyYLLABLE LENGTHENER"),
   (0x1E140, "aNYIAKENG PUACHUE HMONG DIGIT ZEROδONEδTWOεHREEδFOURεIVEδSIXεEVENδEIGHTδNINE"),
   (0x1E14E, "aNYIAKENG PUACHUE HMONG LOGOGRAM NYAJxCIRCLED CA"),
   (0x1E290, "aTOTO LETTER PAmBAmTAmDAmKAmGAmMAmNAnGAmSAmCHAmYAmWAmJAmHAmRAmLAmImBREATHY ImIU
mBREATHY IUmUmEmBREATHY EmEOmBREATHY EOmOmAEmBREATHY AEmAfSIGN RISING TONE"),
   (0x1E2C0, "aWANCHO LETTER AApoBAoCAoDAoGAoYAoPHAoLAoNAoPAoTApHAoFAoSApHAoJAoZAoWAoVAoKAoOoAU
oRAoMAoKHAoHAoEoIoNGAoUoLLHAoTSApRAoONGoAANGpNGoINGoONoENoAANoNYAoUENoYIHhTONE TUPpNImKOIpNI
hDIGIT ZEROnONEnTWOoHREEnFOURoIVEnSIXoEVENnEIGHTnNINE"),
   (0x1E2FF, "aWANCHO NGUN SIGN"),
   (0x1E7E0, "aETHIOPIC SYLLABLE HHYAvUvIvAAvEEwvO"),
   (0x1E7E8, "aETHIOPIC SYLLABLE GURAGE HHWAsHHWIvEEw"),
   (0x1E7ED, "aETHIOPIC SYLLABLE GURAGE MWIβEE"),
   (0x1E7F0, "aETHIOPIC SYLLABLE GURAGE QWIβEEγzBWIβEEzKWIβEEγzGWIβEEγzFWIβEEzPWIβEE"),
   (0x1E800, "aMENDE KIKAKUI SYLLABLE M001 KIα2 KAα3 KUz65 KEEz95 KEz76 KOOz48 KOy179 KUAy004 WI
α5 WAα6 WUy126 WEEz18 WEα4 WOOy045 WOy194 WUIz43 WEIy061 WVIz49 WVAy139 WVEy007 MINα8 MANα9 MUN
z59 MENz94 MONy154 MUANz89 MUENy010 BIα1 BAα2 BUy150 BEEy097 BEy103 BOOz38 BOy013 Iα4 Aα5 U
y163 EEz00 Ez65 OOz47 Oz37 EIα1 INα5 INz95 ANz78 ENy019 SIz20 SAα1 SUy162 SEEz16 SEz36 SOOy079 SO
y196 SIAy025 LIα6 LAα7 LUz84 LEEz73 LEz54 LOOy153 LOz10 LONG LEy016 DIα7 DAα8 DUz89 DEEy180 DOO
α1 DOy022 TIα3 TAα4 TUz91 TEEz55 TEy104 TOOy069 TOz28 JIα9 JAz30 JUy157 JEEz13 JEz60 JOOy063 JO
y175 LONG JOy031 YIα2 YAα3 YUy109 YEEy080 YEy141 YOOz21 YOy034 FIα5 FAα6 FUz78 FEEα5 FEy133 FOO
y088 FOy197 FUAz01 FANy037 NINα8 NANα9 NUNy117 NENz69 NONz76 HIy041 HAy186 HUy040 HEEz96 HE
z42 HOOy140 HOy083 HEEIy128 HOOUy053 HINy130 HANy087 HUNz52 HENy193 HONy046 HUANz90 NGGIz43 NGGA
z82 NGGUy115 NGGEEz46 NGGEz56 NGGOOz20 NGGOz59 NGGAAz27 NGGUAy086 LONG NGGEy106 LONG NGGOO
z83 LONG NGGOz55 GIz11 GAz68 GUz90 GEEz66 GUEIα7 GUANz84 NGENy057 NGONy177 NGUANy068 PIz99 PA
z50 PUz81 PEEz51 PEy102 POOy066 POy145 MBIy062 MBAy122 MBUy047 MBEEy188 MBEEy072 MBEy172 MBOO
α4 MBOz87 MBUUz61 LONG MBEz05 LONG MBOOz42 LONG MBOz32 KPIy092 KPAz74 KPUz44 KPEEy108 KPEz12 KPOO
z58 KPOz24 GBIy056 GBAy148 GBUy093 GBEEy107 GBEy071 GBOOα0 GBOy171 RAz23 NDIα9 NDAα5 NDUz91 NDEE
z19 NDEy067 NDOOα4 NDOy152 NJAz92 NJUz49 NJEEz34 NJOOz82 VIα5 VAz51 VUz73 VEEy085 VEy144 VOO
y077 VOy164 NYINy058 NYANy170 NYUNy098 NYENz60 NYON"),
   (0x1E8C7, "aMENDE KIKAKUI DIGIT ONEuTWOvHREEuFOURvIVEuSIXvEVENuEIGHTuNINE
oCOMBINING NUMBER TEENSθNSζHUNDREDSζTHOUSANDSηEN THOUSANDSζHUNDRED THOUSANDSζMILLIONS"),
   (0x1E900, "aADLAM CAPITAL LETTER ALIFvDAALIvLAAMvMIIMvBAvSINNYIIYHEvPEvBHEvRAvEvFAvIvOvDHAvYHE
vWAWvNUNvKAFvYAvUvJIIMvCHIvHAvQAAFvGAvNYAvTUvNHAvVAvKHAvGBEvZALvKPOvSHAgSMALL LETTER ALIFtDAALI
tLAAMtMIIMtBAtSINNYIIYHEtPEtBHEtRAtEtFAtItOtDHAtYHEtWAWtNUNtKAFtYAtUtJIIMtCHItHAtQAAFtGAtNYAtTU
tNHAtVAtKHAtGBEtZALtKPOtSHAgALIF LENGTHENERgVOWEL LENGTHENERgGEMINATION MARKgHAMZA
gCONSONANT MODIFIERgGEMINATE CONSONANT MODIFIERgNUKTAhASALIZATION MARK"),
   (0x1E950, "aADLAM DIGIT ZEROmONEmTWOnHREEmFOURnIVEmSIXnEVENmEIGHTmNINE"),
   (0x1E95E, "aADLAM INITIAL EXCLAMATION MARKoQUESTION MARK"),
   (0x1EC71, "aINDIC SIYAQ NUMBER ONEtTWOuHREEtFOURuIVEtSIXuEVENtEIGHTtNINEtTENuWENTYuHIRTYtFORTY
uIFTYtSIXTYuEVENTYtEIGHTYtNINETYtONE HUNDREDtTWO HUNDREDuHREE HUNDREDtFOUR HUNDREDuIVE HUNDRED
tSIX HUNDREDuEVEN HUNDREDtEIGHT HUNDREDtNINE HUNDREDtONE THOUSANDtTWO THOUSANDuHREE THOUSAND
tFOUR THOUSANDuIVE THOUSANDtSIX THOUSANDuEVEN THOUSANDtEIGHT THOUSANDtNINE THOUSANDtTEN THOUSAND
uWENTY THOUSANDuHIRTY THOUSANDtFORTY THOUSANDuIFTY THOUSANDtSIXTY THOUSANDuEVENTY THOUSAND
tEIGHTY THOUSANDtNINETY THOUSANDtLAKHxANmLAKH MARKmNUMBER KARORyANtPREFIXED ONEγTWOδHREEγFOURδIVE
γSIXδEVENγEIGHTγNINEmPLACEHOLDERmFRACTION ONE QUARTERzHALFvTHREE QUARTERSmRUPEE MARK
mNUMBER ALTERNATE ONEδTWOεEN THOUSANDmALTERNATE LAKH MARK"),
   (0x1ED01, "aOTTOMAN SIYAQ NUMBER ONEvTWOwHREEvFOURwIVEvSIXwEVENvEIGHTvNINEvTENwWENTYwHIRTY
vFORTYwIFTYvSIXTYwEVENTYvEIGHTYvNINETYvONE HUNDREDvTWO HUNDREDwHREE HUNDREDvFOUR HUNDRED
wIVE HUNDREDvSIX HUNDREDwEVEN HUNDREDvEIGHT HUNDREDvNINE HUNDREDvONE THOUSANDvTWO THOUSAND
wHREE THOUSANDvFOUR THOUSANDwIVE THOUSANDvSIX THOUSANDwEVEN THOUSANDvEIGHT THOUSANDvNINE THOUSAND
vTEN THOUSANDwWENTY THOUSANDwHIRTY THOUSANDvFORTY THOUSANDwIFTY THOUSANDvSIXTY THOUSAND
wEVENTY THOUSANDvEIGHTY THOUSANDvNINETY THOUSANDoMARRATANoALTERNATE NUMBER TWOηHREEζFOURηIVEζSIX
ηEVENζEIGHTζNINEζTENζFOUR HUNDREDζSIX HUNDREDζTWO THOUSANDηEN THOUSANDoFRACTION ONE HALFβSIXTH"),
   (0x1EE00, "aARABIC MATHEMATICAL ALEFuBEHuJEEMuDAL"),
   (0x1EE05, "aARABIC MATHEMATICAL WAWuZAINuHAHuTAHuYEHuKAFuLAMuMEEMuNOONuSEENuAINuFEHuSADuQAF
uREHuSHEENuTEHvHEHuKHAHuTHALuDADuZAHuGHAINuDOTLESS BEHγNOONγFEHγQAF"),
   (0x1EE21, "aARABIC MATHEMATICAL INITIAL BEHγJEEM"),
   (0x1EE24, "aARABIC MATHEMATICAL INITIAL HEH"),
   (0x1EE27, "aARABIC MATHEMATICAL INITIAL HAH"),
   (0x1EE29, "aARABIC MATHEMATICAL INITIAL YEHγKAFγLAMγMEEMγNOONγSEENγAINγFEHγSADγQAF"),
   (0x1EE34, "aARABIC MATHEMATICAL INITIAL SHEENγTEHδHEHγKHAH"),
   (0x1EE39, "aARABIC MATHEMATICAL INITIAL DAD"),
   (0x1EE3B, "aARABIC MATHEMATICAL INITIAL GHAIN"),
   (0x1EE42, "aARABIC MATHEMATICAL TAILED JEEM"),
   (0x1EE47, "aARABIC MATHEMATICAL TAILED HAH"),
   (0x1EE49, "aARABIC MATHEMATICAL TAILED YEH"),
   (0x1EE4B, "aARABIC MATHEMATICAL TAILED LAM"),
   (0x1EE4D, "aARABIC MATHEMATICAL TAILED NOONβSEENβAIN"),
   (0x1EE51, "aARABIC MATHEMATICAL TAILED SADβQAF"),
   (0x1EE54, "aARABIC MATHEMATICAL TAILED SHEEN"),
   (0x1EE57, "aARABIC MATHEMATICAL TAILED KHAH"),
   (0x1EE59, "aARABIC MATHEMATICAL TAILED DAD"),
   (0x1EE5B, "aARABIC MATHEMATICAL TAILED GHAIN"),
   (0x1EE5D, "aARABIC MATHEMATICAL TAILED DOTLESS NOON"),
   (0x1EE5F, "aARABIC MATHEMATICAL TAILED DOTLESS QAF"),
   (0x1EE61, "aARABIC MATHEMATICAL STRETCHED BEHεJEEM"),
   (0x1EE64, "aARABIC MATHEMATICAL STRETCHED HEH"),
   (0x1EE67, "aARABIC MATHEMATICAL STRETCHED HAHεTAHεYEHεKAF"),
   (0x1EE6C, "aARABIC MATHEMATICAL STRETCHED MEEMεNOONεSEENεAINεFEHεSADεQAF"),
   (0x1EE74, "aARABIC MATHEMATICAL STRETCHED SHEENεTEHζHEHεKHAH"),
   (0x1EE79, "aARABIC MATHEMATICAL STRETCHED DADεZAHεGHAINεDOTLESS BEH"),
   (0x1EE7E, "aARABIC MATHEMATICAL STRETCHED DOTLESS FEH"),
   (0x1EE80, "aARABIC MATHEMATICAL LOOPED ALEFβBEHβJEEMβDALβHEHβWAWβZAINβHAHβTAHβYEH"),
   (0x1EE8B, "aARABIC MATHEMATICAL LOOPED LAMβMEEMβNOONβSEENβAINβFEHβSADβQAFβREHβSHEENβTEHγHEH
βKHAHβTHALβDADβZAHβGHAIN"),
   (0x1EEA1, "aARABIC MATHEMATICAL DOUBLE-STRUCK BEHιJEEMιDAL"),
   (0x1EEA5, "aARABIC MATHEMATICAL DOUBLE-STRUCK WAWιZAINιHAHιTAHιYEH"),
   (0x1EEAB, "aARABIC MATHEMATICAL DOUBLE-STRUCK LAMιMEEMιNOONιSEENιAINιFEHιSADιQAFιREHιSHEENιTEH
κHEHιKHAHιTHALιDADιZAHιGHAIN"),
   (0x1EEF0, "aARABIC MATHEMATICAL OPERATOR MEEM WITH HAH WITH TATWEELδHAH WITH DAL"),
   (0x1F000, "aMAHJONG TILE EAST WINDnSOUTH WINDnWEST WINDnNORTH WINDnRED DRAGONnGREEN DRAGON
nWHITE DRAGONnONE OF CHARACTERSnTWO OF CHARACTERSoHREE OF CHARACTERSnFOUR OF CHARACTERS
oIVE OF CHARACTERSnSIX OF CHARACTERSoEVEN OF CHARACTERSnEIGHT OF CHARACTERSnNINE OF CHARACTERS
nONE OF BAMBOOSnTWO OF BAMBOOSoHREE OF BAMBOOSnFOUR OF BAMBOOSoIVE OF BAMBOOSnSIX OF BAMBOOS
oEVEN OF BAMBOOSnEIGHT OF BAMBOOSnNINE OF BAMBOOSnONE OF CIRCLESnTWO OF CIRCLESoHREE OF CIRCLES
nFOUR OF CIRCLESoIVE OF CIRCLESnSIX OF CIRCLESoEVEN OF CIRCLESnEIGHT OF CIRCLESnNINE OF CIRCLES
nPLUMnORCHIDnBAMBOOnCHRYSANTHEMUMnSPRINGoUMMERnAUTUMNnWINTERnJOKERnBACK"),
   (0x1F030, "aDOMINO TILE HORIZONTAL BACKw-00-00β1β2β3β4β5β6y1-00β1β2β3β4β5β6y2-00β1β2β3β4β5β6
y3-00β1β2β3β4β5β6y4-00β1β2β3β4β5β6y5-00β1β2β3β4β5β6y6-00β1β2β3β4β5β6mVERTICAL BACKu-00-00z1z2z3z4
z5z6w1-00z1z2z3z4z5z6w2-00z1z2z3z4z5z6w3-00z1z2z3z4z5z6w4-00z1z2z3z4z5z6w5-00z1z2z3z4z5z6w6-00z1
z2z3z4z5z6"),
   (0x1F0A0, "aPLAYING CARD BACKnACE OF SPADESnTWO OF SPADESoHREE OF SPADESnFOUR OF SPADES
oIVE OF SPADESnSIX OF SPADESoEVEN OF SPADESnEIGHT OF SPADESnNINE OF SPADESnTEN OF SPADES
nJACK OF SPADESnKNIGHT OF SPADESnQUEEN OF SPADESnKING OF SPADES"),
   (0x1F0B1, "aPLAYING CARD ACE OF HEARTSnTWO OF HEARTSoHREE OF HEARTSnFOUR OF HEARTS
oIVE OF HEARTSnSIX OF HEARTSoEVEN OF HEARTSnEIGHT OF HEARTSnNINE OF HEARTSnTEN OF HEARTS
nJACK OF HEARTSnKNIGHT OF HEARTSnQUEEN OF HEARTSnKING OF HEARTSnRED JOKER"),
   (0x1F0C1, "aPLAYING CARD ACE OF DIAMONDSnTWO OF DIAMONDSoHREE OF DIAMONDSnFOUR OF DIAMONDS
oIVE OF DIAMONDSnSIX OF DIAMONDSoEVEN OF DIAMONDSnEIGHT OF DIAMONDSnNINE OF DIAMONDS
nTEN OF DIAMONDSnJACK OF DIAMONDSnKNIGHT OF DIAMONDSnQUEEN OF DIAMONDSnKING OF DIAMONDS
nBLACK JOKER"),
   (0x1F0D1, "aPLAYING CARD ACE OF CLUBSnTWO OF CLUBSoHREE OF CLUBSnFOUR OF CLUBSoIVE OF CLUBS
nSIX OF CLUBSoEVEN OF CLUBSnEIGHT OF CLUBSnNINE OF CLUBSnTEN OF CLUBSnJACK OF CLUBS
nKNIGHT OF CLUBSnQUEEN OF CLUBSnKING OF CLUBSnWHITE JOKERnFOOLnTRUMP-1t2t3t4t5t6t7t8t9t10u1u2u3u4
u5u6u7u8u9t20u1"),
   (0x1F100, "aDIGIT ZERO FULL STOPlCOMMAgONE COMMAgTWO COMMAhHREE COMMAgFOUR COMMAhIVE COMMA
gSIX COMMAhEVEN COMMAgEIGHT COMMAgNINE COMMAcNGBAT CIRCLED SANS-SERIF DIGIT ZERO
iNEGATIVE CIRCLED SANS-SERIF DIGIT ZEROaCIRCLED ZERO WITH SLASHiANTICLOCKWISE ARROW
iDOLLAR SIGN WITH OVERLAID BACKSLASHaPARENTHESIZED LATIN CAPITAL LETTER AκBκCκDκEκFκGκHκIκJκKκLκM
κNκOκPκQκRκSκTκUκVκWκXκYκZaTORTOISE SHELL BRACKETED LATIN CAPITAL LETTER S
aCIRCLED ITALIC LATIN CAPITAL LETTER CλRiCDiWZbOPYLEFT SYMBOLaSQUARED LATIN CAPITAL LETTER AδBδC
δDδEδFδGδHδIδJδKδLδMδNδOδPδQδRδSδTδUδVδWδXδYδZiHViMViSDjSiPPViWC
aNEGATIVE CIRCLED LATIN CAPITAL LETTER AνBνCνDνEνFνGνHνIνJνKνLνMνNνOνPνQνRνSνTνUνVνWνXνYνZ
aRAISED MC SIGNiD SIGNiR SIGNaCIRCLED CCj WITH OVERLAID BACKSLASHiHUMAN FIGURE
aNEGATIVE SQUARED LATIN CAPITAL LETTER AνBνCνDνEνFνGνHνIνJνKνLνMνNνOνPνQνRνSνTνUνVνWνXνYνZ
aCROSSED NEGATIVE SQUARED LATIN CAPITAL LETTER PaNEGATIVE SQUARED ICrPArSArABrWCaSQUARE DJgD CL
jOOLiFREEiIDiNEWjGiOKiSOSiUP WITH EXCLAMATION MARKiVSiTHREE DiSECOND SCREENiTWO KiFOUR KiEIGHT K
iFIVE POINT ONEiSEVEN POINT ONEiTWENTY-TWO POINT TWOiSIXTY PiONE HUNDRED TWENTY P
iLATIN SMALL LETTER DiHCjDRjI-RESiLOSSLESSiSHViUHDiVODaMASK WORK SYMBOL"),
   (0x1F1E6, "aREGIONAL INDICATOR SYMBOL LETTER AθBθCθDθEθFθGθHθIθJθKθLθMθNθOθPθQθRθSθTθUθVθWθXθY
θZaSQUARE HIRAGANA HOKAgD KATAKANA KOKOrSA"),
   (0x1F210, "aSQUARED CJK UNIFIED IDEOGRAPH-624Bε5B57ζ3CCiKATAKANA DEiCJK UNIFIED IDEOGRAPH-4E8C
ε591Aε89E3ε5929ε4EA4ε6620ε7121ε6599ε524DζF8Cζ18Dε65B0ε521Dε7D42ζ51Fε8CA9ε58F0ζ439ε6F14ζ295ζ355
ε4E00θ9ε904Aε5DE6ε4E2Dε53F3ε6307ε8D70ε6253ε7981ζA7Aε5408ε6E80ζ709θ8ε7533ε5272ζ5B6ε914D"),
   (0x1F240, "aTORTOISE SHELL BRACKETED CJK UNIFIED IDEOGRAPH-672Cφ4E09ψ8Cφ5B89φ70B9φ6253φ76D7
φ52DDφ6557"),
   (0x1F250, "aCIRCLED IDEOGRAPH ADVANTAGEtCCEPT"),
   (0x1F260, "aROUNDED SYMBOL FOR FUtLUtSHOUtXItSHUANGXItCAI"),
   (0x1F300, "aCYCLONEaFOGGYaCLOSED UMBRELLAaNIGHT WITH STARSaSUNRISE OVER MOUNTAINSh
aCITYSCAPE AT DUSKaSUNSET OVER BUILDINGSaRAINBOWaBRIDGE AT NIGHTaWATER WAVEaVOLCANOaMILKY WAY
aEARTH GLOBE EUROPE-AFRICAmAMERICASnSIA-AUSTRALIAaGLOBE WITH MERIDIANSaNEW MOON SYMBOL
aWAXING CRESCENT MOON SYMBOLaFIRST QUARTER MOON SYMBOLaWAXING GIBBOUS MOON SYMBOL
aFULL MOON SYMBOLaWANING GIBBOUS MOON SYMBOLaLAST QUARTER MOON SYMBOLaWANING CRESCENT MOON SYMBOL
aCRESCENT MOONaNEW MOON WITH FACEaFIRST QUARTER MOON WITH FACEaLAST QUARTER MOON WITH FACE
aFULL MOON WITH FACEaSUN WITH FACEaGLOWING STARaSHOOTING STARaTHERMOMETERaBLACK DROPLETaWHITE SUN
j WITH SMALL CLOUDkBEHIND CLOUDw WITH RAINaCLOUD WITH RAINlSNOWlLIGHTNINGlTORNADOaFOG
aWIND BLOWING FACEaHOT DOGaTACOaBURRITOaCHESTNUTaSEEDLINGaEVERGREEN TREEaDECIDUOUS TREEaPALM TREE
aCACTUSaHOT PEPPERaTULIPaCHERRY BLOSSOMaROSEaHIBISCUSaSUNFLOWERaBLOSSOMaEAR OF MAIZEhRICEaHERB
aFOUR LEAF CLOVERaMAPLE LEAFaFALLEN LEAFaLEAF FLUTTERING IN WINDaMUSHROOMaTOMATOaAUBERGINEaGRAPES
aMELONaWATERMELONaTANGERINEaLEMONaBANANAaPINEAPPLEaRED APPLEaGREEN APPLEaPEARdCHaCHERRIES
aSTRAWBERRYaHAMBURGERaSLICE OF PIZZAaMEAT ON BONEaPOULTRY LEGaRICE CRACKERfBALLaCOOKED RICE
bURRY AND RICEaSTEAMING BOWLbPAGHETTIaBREADaFRENCH FRIESaROASTED SWEET POTATOaDANGOaODENaSUSHI
aFRIED SHRIMPbISH CAKE WITH SWIRL DESIGNaSOFT ICE CREAMbHAVED ICEaICE CREAMaDOUGHNUTaCOOKIE
bHOCOLATE BARbANDYaLOLLIPOPaCUSTARDaHONEY POTaSHORTCAKEaBENTO BOXaPOT OF FOODaCOOKING
aFORK AND KNIFEaTEACUP WITHOUT HANDLEaSAKE BOTTLE AND CUPaWINE GLASSaCOCKTAIL GLASS
aTROPICAL DRINKaBEER MUGaCLINKING BEER MUGSaBABY BOTTLEaFORK AND KNIFE WITH PLATE
aBOTTLE WITH POPPING CORKaPOPCORNaRIBBONaWRAPPED PRESENTaBIRTHDAY CAKEaJACK-O-LANTERN
aCHRISTMAS TREEaFATHER CHRISTMASbIREWORKSi SPARKLERaBALLOONaPARTY POPPERaCONFETTI BALL
aTANABATA TREEaCROSSED FLAGSaPINE DECORATIONaJAPANESE DOLLSaCARP STREAMERaWIND CHIME
aMOON VIEWING CEREMONYaSCHOOL SATCHELaGRADUATION CAPaHEART WITH TIP ON THE LEFT
aBOUQUET OF FLOWERSaMILITARY MEDALaREMINDER RIBBONaMUSICAL KEYBOARD WITH JACKSaSTUDIO MICROPHONE
aLEVEL SLIDERaCONTROL KNOBSaBEAMED ASCENDING MUSICAL NOTEShDESCENDING MUSICAL NOTESaFILM FRAMES
aADMISSION TICKETSaCAROUSEL HORSEaFERRIS WHEELaROLLER COASTERaFISHING POLE AND FISHaMICROPHONE
bOVIE CAMERAaCINEMAaHEADPHONEaARTIST PALETTEaTOP HATaCIRCUS TENTaTICKETaCLAPPER BOARD
aPERFORMING ARTSaVIDEO GAMEaDIRECT HITaSLOT MACHINEaBILLIARDSaGAME DIEaBOWLING
aFLOWER PLAYING CARDSaMUSICAL NOTEcLTIPLE MUSICAL NOTESaSAXOPHONEaGUITARaMUSICAL KEYBOARDaTRUMPET
aVIOLINaMUSICAL SCOREaRUNNING SHIRT WITH SASHaTENNIS RACQUET AND BALLaSKI AND SKI BOOT
aBASKETBALL AND HOOPaCHEQUERED FLAGaSNOWBOARDERaRUNNERaSURFERbPORTS MEDALaTROPHYaHORSE RACING
aAMERICAN FOOTBALLaRUGBY FOOTBALLaSWIMMERaWEIGHT LIFTERaGOLFERaRACING MOTORCYCLEhCAR
aCRICKET BAT AND BALLaVOLLEYBALLaFIELD HOCKEY STICK AND BALLaICE HOCKEY STICK AND PUCK
aTABLE TENNIS PADDLE AND BALLaSNOW CAPPED MOUNTAINaCAMPINGaBEACH WITH UMBRELLA
bUILDING CONSTRUCTIONaHOUSE BUILDINGSaCITYSCAPEaDERELICT HOUSE BUILDINGaCLASSICAL BUILDINGaDESERT
g ISLANDaNATIONAL PARKaSTADIUMaHOUSE BUILDINGgWITH GARDENaOFFICE BUILDINGaJAPANESE POST OFFICE
aEUROPEAN POST OFFICEaHOSPITALaBANKaAUTOMATED TELLER MACHINEaHOTELaLOVE HOTELaCONVENIENCE STORE
aSCHOOLaDEPARTMENT STOREaFACTORYaIZAKAYA LANTERNaJAPANESE CASTLEaEUROPEAN CASTLEaWHITE PENNANT
aBLACK PENNANTaWAVING WHITE FLAGhBLACK FLAGaROSETTEaBLACK ROSETTEaLABEL
aBADMINTON RACQUET AND SHUTTLECOCKbOW AND ARROWaAMPHORAaEMOJI MODIFIER FITZPATRICK TYPE-1-2η3η4η5
η6aRATaMOUSEaOXaWATER BUFFALOaCOWaTIGERaLEOPARDaRABBITaCATaDRAGONaCROCODILEaWHALEaSNAILdKEaHORSE
aRAMaGOATaSHEEPaMONKEYaROOSTERaCHICKENaDOGaPIGaBOARaELEPHANTaOCTOPUSaSPIRAL SHELLaBUGaANT
aHONEYBEEaLADY BEETLEaFISHaTROPICAL FISHaBLOWFISHaTURTLEaHATCHING CHICKaBABY CHICK
aFRONT-FACING BABY CHICKaBIRDaPENGUINaKOALAaPOODLEaDROMEDARY CAMELaBACTRIAN CAMELaDOLPHIN
aMOUSE FACEaCOW FACEaTIGER FACEaRABBIT FACEaCAT FACEaDRAGON FACEaSPOUTING WHALEaHORSE FACE
aMONKEY FACEaDOG FACEaPIG FACEaFROG FACEaHAMSTER FACEaWOLF FACEaBEAR FACEaPANDA FACEbIG NOSE
bAW PRINTSaCHIPMUNKaEYESdbARaNOSEaMOUTHaTONGUEaWHITE UP POINTING BACKHAND INDEX
gDOWN POINTING BACKHAND INDEXgLEFT POINTING BACKHAND INDEXgRIGHT POINTING BACKHAND INDEX
aFISTED HAND SIGNaWAVING HAND SIGNaOK HAND SIGNaTHUMBS UP SIGNhDOWN SIGNaCLAPPING HANDS SIGN
aOPEN HANDS SIGNaCROWNaWOMANS HATaEYEGLASSESaNECKTIEaT-SHIRTaJEANSaDRESSaKIMONOaBIKINI
aWOMANS CLOTHESaPURSEaHANDBAGaPOUCHaMANS SHOEaATHLETIC SHOEaHIGH-HEELED SHOEaWOMANS SANDALhBOOTS
aFOOTPRINTSaBUST IN SILHOUETTEeS IN SILHOUETTEbOYaGIRLaMANaWOMANaFAMILY
aMAN AND WOMAN HOLDING HANDSaTWO MEN HOLDING HANDSeWOMEN HOLDING HANDSaPOLICE OFFICER
aWOMAN WITH BUNNY EARSaBRIDE WITH VEILaPERSON WITH BLOND HAIRaMAN WITH GUA PI MAOjTURBAN
aOLDER MANgWOMANaBABYaCONSTRUCTION WORKERaPRINCESSaJAPANESE OGREjGOBLINaGHOSTaBABY ANGEL
aEXTRATERRESTRIAL ALIENaALIEN MONSTERaIMPaSKULLaINFORMATION DESK PERSONaGUARDSMANaDANCERaLIPSTICK
aNAIL POLISHaFACE MASSAGEaHAIRCUTaBARBER POLEaSYRINGEaPILLaKISS MARKaLOVE LETTERaRINGaGEM STONE
aKISSaBOUQUETaCOUPLE WITH HEARTaWEDDINGaBEATING HEARTbROKEN HEARTaTWO HEARTSaSPARKLING HEART
aGROWING HEARTaHEART WITH ARROWaBLUE HEARTaGREEN HEARTaYELLOW HEARTaPURPLE HEART
aHEART WITH RIBBONaREVOLVING HEARTSaHEART DECORATIONaDIAMOND SHAPE WITH A DOT INSIDE
aELECTRIC LIGHT BULBaANGER SYMBOLaBOMBaSLEEPING SYMBOLaCOLLISION SYMBOLaSPLASHING SWEAT SYMBOL
aDROPLETbASH SYMBOLaPILE OF POOaFLEXED BICEPSaDIZZY SYMBOLaSPEECH BALLOONaTHOUGHT BALLOON
aWHITE FLOWERaHUNDRED POINTS SYMBOLaMONEY BAGaCURRENCY EXCHANGEaHEAVY DOLLAR SIGNaCREDIT CARD
aBANKNOTE WITH YEN SIGNoDOLLAR SIGNoEURO SIGNoPOUND SIGNaMONEY WITH WINGS
aCHART WITH UPWARDS TREND AND YEN SIGNaSEATaPERSONAL COMPUTERaBRIEFCASEaMINIDISCaFLOPPY DISK
aOPTICAL DISCaDVDaFILE FOLDERaOPEN FILE FOLDERaPAGE WITH CURLfFACING UPaCALENDAR
aTEAR-OFF CALENDARaCARD INDEXbHART WITH UPWARDS TRENDlDOWNWARDS TRENDaBAR CHARTaCLIPBOARDaPUSHPIN
aROUND PUSHPINaPAPERCLIPaSTRAIGHT RULERaTRIANGULAR RULERaBOOKMARK TABSaLEDGERaNOTEBOOK
i WITH DECORATIVE COVERaCLOSED BOOKaOPEN BOOKaGREEN BOOKaBLUE BOOKaORANGE BOOKaBOOKSaNAME BADGE
aSCROLLaMEMOaTELEPHONE RECEIVERaPAGERaFAX MACHINEaSATELLITE ANTENNAaPUBLIC ADDRESS LOUDSPEAKER
aCHEERING MEGAPHONEaOUTBOX TRAYaINBOX TRAYaPACKAGEaE-MAIL SYMBOLaINCOMING ENVELOPE
aENVELOPE WITH DOWNWARDS ARROW ABOVEaCLOSED MAILBOX WITH LOWERED FLAGuRAISED FLAG
aOPEN MAILBOX WITH RAISED FLAGsLOWERED FLAGaPOSTBOXeAL HORNaNEWSPAPERaMOBILE PHONE
m WITH RIGHTWARDS ARROW AT LEFTaVIBRATION MODEaMOBILE PHONE OFFaNO MOBILE PHONES
aANTENNA WITH BARSaCAMERAg WITH FLASHaVIDEO CAMERAaTELEVISIONaRADIOaVIDEOCASSETTEaFILM PROJECTOR
aPORTABLE STEREObRAYER BEADSaTWISTED RIGHTWARDS ARROWS
aCLOCKWISE RIGHTWARDS AND LEFTWARDS OPEN CIRCLE ARROWSωOWS WITH CIRCLED ONE OVERLAY
kDOWNWARDS AND UPWARDS OPEN CIRCLE ARROWSaANTICLOCKWISE DOWNWARDS AND UPWARDS OPEN CIRCLE ARROWS
aLOW BRIGHTNESS SYMBOLaHIGH BRIGHTNESS SYMBOLaSPEAKER WITH CANCELLATION STROKEh
h WITH ONE SOUND WAVEnTHREE SOUND WAVESaBATTERYaELECTRIC PLUGaLEFT-POINTING MAGNIFYING GLASS
aRIGHT-POINTING MAGNIFYING GLASSaLOCK WITH INK PENaCLOSED LOCK WITH KEYaKEYaLOCKaOPEN LOCKaBELL
e WITH CANCELLATION STROKEbOOKMARKaLINK SYMBOLaRADIO BUTTONaBACK WITH LEFTWARDS ARROW ABOVE
aEND WITH LEFTWARDS ARROW ABOVEaON WITH EXCLAMATION MARK WITH LEFT RIGHT ARROW ABOVE
aSOON WITH RIGHTWARDS ARROW ABOVEaTOP WITH UPWARDS ARROW ABOVEaNO ONE UNDER EIGHTEEN SYMBOL
aKEYCAP TENaINPUT SYMBOL FOR LATIN CAPITAL LETTERSxSMALL LETTERSrNUMBERSrSYMBOLSrLATIN LETTERS
aFIREaELECTRIC TORCHaWRENCHaHAMMERaNUT AND BOLTaHOCHOaPISTOLaMICROSCOPEaTELESCOPEaCRYSTAL BALL
aSIX POINTED STAR WITH MIDDLE DOTaJAPANESE SYMBOL FOR BEGINNERaTRIDENT EMBLEMaBLACK SQUARE BUTTON
aWHITE SQUARE BUTTONaLARGE RED CIRCLEgBLUE CIRCLEgORANGE DIAMONDgBLUE DIAMOND
aSMALL ORANGE DIAMONDgBLUE DIAMONDaUP-POINTING RED TRIANGLEaDOWN-POINTING RED TRIANGLE
aUP-POINTING SMALL RED TRIANGLEaDOWN-POINTING SMALL RED TRIANGLE
aLOWER RIGHT SHADOWED WHITE CIRCLEaUPPER RIGHT SHADOWED WHITE CIRCLEaCIRCLED CROSS POMMEE
bROSS POMMEE WITH HALF-CIRCLE BELOWmaNOTCHED LEFT SEMICIRCLE WITH THREE DOTS
iRIGHT SEMICIRCLE WITH THREE DOTSaSYMBOL FOR MARKS CHAPTERaWHITE LATIN CROSSaHEAVY LATIN CROSS
aCELTIC CROSSaOM SYMBOLaDOVE OF PEACEaKAABAaMOSQUEaSYNAGOGUEaMENORAH WITH NINE BRANCHES
aBOWL OF HYGIEIAaCLOCK FACE ONE OCLOCKlTWO OCLOCKmHREE OCLOCKlFOUR OCLOCKmIVE OCLOCKlSIX OCLOCK
mEVEN OCLOCKlEIGHT OCLOCKlNINE OCLOCKlTEN OCLOCKlELEVEN OCLOCKlTWELVE OCLOCKlONE-THIRTY
lTWO-THIRTYmHREE-THIRTYlFOUR-THIRTYmIVE-THIRTYlSIX-THIRTYmEVEN-THIRTYlEIGHT-THIRTYlNINE-THIRTY
lTEN-THIRTYlELEVEN-THIRTYlTWELVE-THIRTYaRIGHT SPEAKERn WITH ONE SOUND WAVEtTHREE SOUND WAVES
aBULLHORNi WITH SOUND WAVESaRINGING BELLaBOOKaCANDLEaMANTELPIECE CLOCKaBLACK SKULL AND CROSSBONES
aNO PIRACYaHOLEaMAN IN BUSINESS SUIT LEVITATINGaSLEUTH OR SPYaDARK SUNGLASSESaSPIDERg WEB
aJOYSTICKaMAN DANCINGaLEFT HAND TELEPHONE RECEIVERaTELEPHONE RECEIVER WITH PAGE
aRIGHT HAND TELEPHONE RECEIVERaWHITE TOUCHTONE TELEPHONEaBLACK TOUCHTONE TELEPHONE
aTELEPHONE ON TOP OF MODEMaCLAMSHELL MOBILE PHONEaBACK OF ENVELOPEaSTAMPED ENVELOPE
aENVELOPE WITH LIGHTNINGaFLYING ENVELOPEaPEN OVER STAMPED ENVELOPEaLINKED PAPERCLIPS
aBLACK PUSHPINaLOWER LEFT PENCILlBALLPOINT PENlFOUNTAIN PENlPAINTBRUSHlCRAYONbEFT WRITING HAND
aTURNED OK HAND SIGNaRAISED HAND WITH FINGERS SPLAYEDbEVERSED RAISED HAND WITH FINGERS SPLAYED
jTHUMBS UP SIGNqDOWN SIGNjVICTORY HANDjHAND WITH MIDDLE FINGER EXTENDED
bAISED HAND WITH PART BETWEEN MIDDLE AND RING FINGERSaWHITE DOWN POINTING LEFT HAND INDEX
aSIDEWAYS WHITE LEFT POINTING INDEXpRIGHT POINTING INDEXjBLACK LEFT POINTING INDEX
pRIGHT POINTING INDEXaBLACK LEFT POINTING BACKHAND INDEXgRIGHT POINTING BACKHAND INDEX
aSIDEWAYS WHITE UP POINTING INDEXpDOWN POINTING INDEXjBLACK UP POINTING INDEXpDOWN POINTING INDEX
aBLACK UP POINTING BACKHAND INDEXgDOWN POINTING BACKHAND INDEXgHEARTaDESKTOP COMPUTER
aKEYBOARD AND MOUSEaTHREE NETWORKED COMPUTERSaPRINTERbOCKET CALCULATOR
aBLACK HARD SHELL FLOPPY DISKaWHITE HARD SHELL FLOPPY DISKaSOFT SHELL FLOPPY DISKaTAPE CARTRIDGE
aWIRED KEYBOARDaONE BUTTON MOUSEaTWO BUTTON MOUSEbHREE BUTTON MOUSEbRACKBALL
aOLD PERSONAL COMPUTERaHARD DISKaSCREENaPRINTER ICONaFAX ICONaOPTICAL DISC ICON
aDOCUMENT WITH TEXTs AND PICTUREoPICTUREaFRAME WITH PICTURElTILESlAN XaBLACK FOLDERaFOLDER
aOPEN FOLDERaCARD INDEX DIVIDERSfFILE BOXaFILE CABINETaEMPTY NOTEk PAGEnDaNOTEe PAGEhD
aEMPTY DOCUMENTgPAGEkSaDOCUMENTaPAGEeSaWASTEBASKETaSPIRAL NOTE PADhCALENDAR PADaDESKTOP WINDOW
aMINIMIZEbAXIMIZEaOVERLAPaCLOCKWISE RIGHT AND LEFT SEMICIRCLE ARROWSbANCELLATION X
aINCREASE FONT SIZE SYMBOLaDECREASE FONT SIZE SYMBOLaCOMPRESSIONaOLD KEYaROLLED-UP NEWSPAPER
aPAGE WITH CIRCLED TEXTaSTOCK CHARTaDAGGER KNIFEaLIPSaSPEAKING HEAD IN SILHOUETTE
aTHREE RAYS ABOVElBELOWlLEFTlRIGHTaLEFT SPEECH BUBBLEaRIGHT SPEECH BUBBLEaTWO SPEECH BUBBLES
bHREE SPEECH BUBBLESaLEFT THOUGHT BUBBLEaRIGHT THOUGHT BUBBLEaLEFT ANGER BUBBLE
aRIGHT ANGER BUBBLEaMOOD BUBBLEaLIGHTNING MOOD BUBBLEoaBALLOT BOX WITH BALLOThSCRIPT X
hBOX WITH SCRIPT XjLD SCRIPT XjX WITH BOLD SCRIPT XaLIGHT CHECK MARKaBALLOT BOX WITH BOLD CHECK
aWORLD MAPaMOUNT FUJIaTOKYO TOWERaSTATUE OF LIBERTYbILHOUETTE OF JAPANaMOYAIaGRINNING FACE
n WITH SMILING EYESaFACE WITH TEARS OF JOYaSMILING FACE WITH OPEN MOUTHγ AND SMILING EYES
θCOLD SWEATθTIGHTLY-CLOSED EYESsHALOtORNSaWINKING FACEaSMILING FACE WITH SMILING EYES
aFACE SAVOURING DELICIOUS FOODaRELIEVED FACEaSMILING FACE WITH HEART-SHAPED EYESsSUNGLASSES
dRKING FACEaNEUTRAL FACEaEXPRESSIONLESS FACEaUNAMUSED FACEaFACE WITH COLD SWEATaPENSIVE FACE
aCONFUSED FACEeOUNDED FACEaKISSING FACEaFACE THROWING A KISSaKISSING FACE WITH SMILING EYES
sCLOSED EYESaFACE WITH STUCK-OUT TONGUEα AND WINKING EYEζTIGHTLY-CLOSED EYESaDISAPPOINTED FACE
aWORRIED FACEaANGRY FACEaPOUTING FACEaCRYING FACEaPERSEVERING FACEaFACE WITH LOOK OF TRIUMPH
aDISAPPOINTED BUT RELIEVED FACEaFROWNING FACE WITH OPEN MOUTHaANGUISHED FACEaFEARFUL FACE
aWEARY FACEaSLEEPY FACEaTIRED FACEaGRIMACING FACEaLOUDLY CRYING FACEaFACE WITH OPEN MOUTH
aHUSHED FACEaFACE WITH OPEN MOUTH AND COLD SWEATfSCREAMING IN FEARaASTONISHED FACEaFLUSHED FACE
aSLEEPING FACEaDIZZY FACEaFACE WITHOUT MOUTHj MEDICAL MASKaGRINNING CAT FACE WITH SMILING EYES
aCAT FACE WITH TEARS OF JOYaSMILING CAT FACE WITH OPEN MOUTHwHEART-SHAPED EYES
aCAT FACE WITH WRY SMILEaKISSING CAT FACE WITH CLOSED EYESaPOUTING CAT FACEaCRYING CAT FACE
aWEARY CAT FACEaSLIGHTLY FROWNING FACEjSMILING FACEaUPSIDE-DOWN FACEaFACE WITH ROLLING EYES
kNO GOOD GESTUREkOK GESTUREaPERSON BOWING DEEPLYaSEE-NO-EVIL MONKEYaHEAR-NO-EVIL MONKEY
aSPEAK-NO-EVIL MONKEYaHAPPY PERSON RAISING ONE HANDaPERSON RAISING BOTH HANDS IN CELEBRATION
hFROWNINGhWITH POUTING FACEmFOLDED HANDSaNORTH WEST POINTING LEAFaSOUTH WEST POINTING LEAF
aNORTH EAST POINTING LEAFaSOUTH EAST POINTING LEAFaTURNED NORTH WEST POINTING LEAF
hSOUTH WEST POINTING LEAFhNORTH EAST POINTING LEAFhSOUTH EAST POINTING LEAF
aNORTH WEST POINTING VINE LEAFaSOUTH WEST POINTING VINE LEAFaNORTH EAST POINTING VINE LEAF
aSOUTH EAST POINTING VINE LEAFaHEAVY NORTH WEST POINTING VINE LEAFgSOUTH WEST POINTING VINE LEAF
gNORTH EAST POINTING VINE LEAFgSOUTH EAST POINTING VINE LEAFaNORTH WEST POINTING BUD
aSOUTH WEST POINTING BUDaNORTH EAST POINTING BUDaSOUTH EAST POINTING BUD
aHEAVY NORTH WEST POINTING BUDgSOUTH WEST POINTING BUDgNORTH EAST POINTING BUD
gSOUTH EAST POINTING BUDbOLLOW QUILT SQUARE ORNAMENTγ IN BLACK SQUAREaSOLID QUILT SQUARE ORNAMENT
β IN BLACK SQUAREaLEFTWARDS ROCKETaUPWARDS ROCKETaRIGHTWARDS ROCKETaDOWNWARDS ROCKET
aSCRIPT LIGATURE ET ORNAMENTaHEAVY SCRIPT LIGATURE ET ORNAMENTaLIGATURE OPEN ET ORNAMENT
aHEAVY LIGATURE OPEN ET ORNAMENTgAMPERSAND ORNAMENTaSWASH AMPERSAND ORNAMENT
bANS-SERIF HEAVY DOUBLE TURNED COMMA QUOTATION MARK ORNAMENTyCOMMA QUOTATION MARK ORNAMENT
rLOW DOUBLE COMMA QUOTATION MARK ORNAMENTaHEAVY INTERROBANG ORNAMENT
aSANS-SERIF INTERROBANG ORNAMENTaHEAVY SANS-SERIF INTERROBANG ORNAMENTaVERY HEAVY SOLIDUS
lREVERSE SOLIDUSaCHECKER BOARDaREVERSE CHECKER BOARDbOCKETaHELICOPTERaSTEAM LOCOMOTIVE
aRAILWAY CARaHIGH-SPEED TRAINq WITH BULLET NOSEaTRAINaMETROaLIGHT RAILaSTATIONaTRAMe CARaBUS
aONCOMING BUSaTROLLEYBUSaBUS STOPaMINIBUSaAMBULANCEaFIRE ENGINEaPOLICE CARaONCOMING POLICE CAR
aTAXIaONCOMING TAXIaAUTOMOBILEaONCOMING AUTOMOBILEaRECREATIONAL VEHICLEaDELIVERY TRUCK
aARTICULATED LORRYaTRACTORaMONORAILcUNTAIN RAILWAYaSUSPENSION RAILWAYaMOUNTAIN CABLEWAY
aAERIAL TRAMWAYaSHIPaROWBOATaSPEEDBOATaHORIZONTAL TRAFFIC LIGHTaVERTICAL TRAFFIC LIGHT
aCONSTRUCTION SIGNaPOLICE CARS REVOLVING LIGHTaTRIANGULAR FLAG ON POSTaDOORaNO ENTRY SIGN
aSMOKING SYMBOLaNO SMOKING SYMBOLaPUT LITTER IN ITS PLACE SYMBOLaDO NOT LITTER SYMBOL
aPOTABLE WATER SYMBOLaNON-POTABLE WATER SYMBOLaBICYCLEaNO BICYCLESaBICYCLISTaMOUNTAIN BICYCLIST
aPEDESTRIANaNO PEDESTRIANSaCHILDREN CROSSINGaMENS SYMBOLaWOMENS SYMBOLaRESTROOMaBABY SYMBOL
aTOILETaWATER CLOSETaSHOWERaBATHeTUBaPASSPORT CONTROLaCUSTOMSaBAGGAGE CLAIMaLEFT LUGGAGE
aTRIANGLE WITH ROUNDED CORNERSaPROHIBITED SIGNaCIRCLED INFORMATION SOURCEaBOYS SYMBOL
aGIRLS SYMBOLaCOUCH AND LAMPaSLEEPING ACCOMMODATIONbHOPPING BAGSaBELLHOP BELLcDaPLACE OF WORSHIP
aOCTAGONAL SIGNaSHOPPING TROLLEYbTUPAaPAGODAaHINDU TEMPLEbUTaELEVATOR"),
   (0x1F6DD, "aPLAYGROUND SLIDEaWHEELaRING BUOYaHAMMER AND WRENCHaSHIELDaOIL DRUMaMOTORWAY
aRAILWAY TRACKaMOTOR BOATaUP-POINTING MILITARY AIRPLANEmAIRPLANEmSMALL AIRPLANEaSMALL AIRPLANE
aNORTHEAST-POINTING AIRPLANEaAIRPLANE DEPARTUREjARRIVING"),
   (0x1F6F0, "aSATELLITEaONCOMING FIRE ENGINEaDIESEL LOCOMOTIVEaPASSENGER SHIPaSCOOTER
aMOTOR SCOOTERaCANOEaSLEDaFLYING SAUCERaSKATEBOARDaAUTO RICKSHAWaPICKUP TRUCKaROLLER SKATE"),
   (0x1F700, "aALCHEMICAL SYMBOL FOR QUINTESSENCEwAIRwFIREwEARTHwWATERwAQUAFORTISα REGIAη-2βVITAE
η-2wVINEGARδ-2ε3wSULFURwPHILOSOPHERS SULFURwBLACK SULFURwMERCURY SUBLIMATEξ-2ο3wCINNABARwSALT
wNITREwVITRIOLδ-2wROCK SALTζ-2wGOLDwSILVERwIRON OREε-2wCROCUS OF IRONwREGULUS OF IRONwCOPPER ORE
wIRON-COPPER OREwSUBLIMATE OF COPPERwCROCUS OF COPPERν-2xOPPER ANTIMONIATE
wSALT OF COPPER ANTIMONIATExUBLIMATE OF SALT OF COPPERwVERDIGRISwTIN OREwLEAD OREwANTIMONY ORE
wSUBLIMATE OF ANTIMONYxALT OF ANTIMONYxUBLIMATE OF SALT OF ANTIMONYwVINEGAR OF ANTIMONY
wREGULUS OF ANTIMONYπ-2δδ-2ε3ε4wALKALIγ-2wMARCASITEwSAL-AMMONIACwARSENICwREALGARδ-2wAURIPIGMENT
wBISMUTH OREwTARTARγ-2wQUICK LIMEwBORAXβ-2γ3wALUMwOILwSPIRITwTINCTUREwGUMwWAXwPOWDERwCALXwTUTTY
wCAPUT MORTUUMwSCEPTER OF JOVEwCADUCEUSwTRIDENTwSTARRED TRIDENTwLODESTONEwSOAPwURINEwHORSE DUNG
wASHESwPOT ASHESwBRICKwPOWDERED BRICKwAMALGAMwSTRATUM SUPER STRATUMς-2xUBLIMATIONwPRECIPITATE
wDISTILLzSOLVEε-2wPURIFYyTREFACTIONwCRUCIBLEε-2ζ3ζ4ζ5wALEMBICwBATH OF MARYεVAPOURSwRETORTwHOUR
wNIGHTwDAY-NIGHTwMONTHwHALF DRAMβOUNCE"),
   (0x1F780, "aBLACK LEFT-POINTING ISOSCELES RIGHT TRIANGLEgUP-POINTING ISOSCELES RIGHT TRIANGLE
gRIGHT-POINTING ISOSCELES RIGHT TRIANGLEgDOWN-POINTING ISOSCELES RIGHT TRIANGLE
gSLIGHTLY SMALL CIRCLEaMEDIUM BOLD WHITE CIRCLEaBOLD WHITE CIRCLEaHEAVY WHITE CIRCLE
aVERY HEAVY WHITE CIRCLEaEXTREMELY HEAVY WHITE CIRCLEaWHITE CIRCLE CONTAINING BLACK SMALL CIRCLE
aROUND TARGETaBLACK TINY SQUAREgSLIGHTLY SMALL SQUAREaLIGHT WHITE SQUAREaMEDIUM WHITE SQUARE
aBOLD WHITE SQUAREaHEAVY WHITE SQUAREaVERY HEAVY WHITE SQUAREaEXTREMELY HEAVY WHITE SQUARE
aWHITE SQUARE CONTAINING BLACK VERY SMALL SQUAREεMEDIUM SQUAREaSQUARE TARGETaBLACK TINY DIAMOND
gVERY SMALL DIAMONDgMEDIUM SMALL DIAMONDaWHITE DIAMOND CONTAINING BLACK VERY SMALL DIAMOND
ζMEDIUM DIAMONDaDIAMOND TARGETaBLACK TINY LOZENGEgVERY SMALL LOZENGEgMEDIUM SMALL LOZENGE
aWHITE LOZENGE CONTAINING BLACK SMALL LOZENGEaTHIN GREEK CROSSaLIGHT GREEK CROSS
aMEDIUM GREEK CROSSaBOLD GREEK CROSSaVERY BOLD GREEK CROSSfHEAVY GREEK CROSS
aEXTREMELY HEAVY GREEK CROSSaTHIN SALTIREaLIGHT SALTIREaMEDIUM SALTIREaBOLD SALTIREaHEAVY SALTIRE
aVERY HEAVY SALTIREaEXTREMELY HEAVY SALTIREaLIGHT FIVE SPOKED ASTERISK
aMEDIUM FIVE SPOKED ASTERISKaBOLD FIVE SPOKED ASTERISKaHEAVY FIVE SPOKED ASTERISK
aVERY HEAVY FIVE SPOKED ASTERISKaEXTREMELY HEAVY FIVE SPOKED ASTERISKaLIGHT SIX SPOKED ASTERISK
aMEDIUM SIX SPOKED ASTERISKaBOLD SIX SPOKED ASTERISKaHEAVY SIX SPOKED ASTERISK
aVERY HEAVY SIX SPOKED ASTERISKaEXTREMELY HEAVY SIX SPOKED ASTERISKaLIGHT EIGHT SPOKED ASTERISK
aMEDIUM EIGHT SPOKED ASTERISKaBOLD EIGHT SPOKED ASTERISKaHEAVY EIGHT SPOKED ASTERISK
aVERY HEAVY EIGHT SPOKED ASTERISKaLIGHT THREE POINTED BLACK STARaMEDIUM THREE POINTED BLACK STAR
aTHREE POINTED BLACK STARaMEDIUM THREE POINTED PINWHEEL STARaLIGHT FOUR POINTED BLACK STAR
aMEDIUM FOUR POINTED BLACK STARaFOUR POINTED BLACK STARaMEDIUM FOUR POINTED PINWHEEL STAR
aREVERSE LIGHT FOUR POINTED PINWHEEL STARaLIGHT FIVE POINTED BLACK STAR
aHEAVY FIVE POINTED BLACK STARaMEDIUM SIX POINTED BLACK STARaHEAVY SIX POINTED BLACK STAR
aSIX POINTED PINWHEEL STARaMEDIUM EIGHT POINTED BLACK STARaHEAVY EIGHT POINTED BLACK STAR
aVERY HEAVY EIGHT POINTED BLACK STARaHEAVY EIGHT POINTED PINWHEEL STAR
aLIGHT TWELVE POINTED BLACK STARaHEAVY TWELVE POINTED BLACK STARvPINWHEEL STARaCIRCLED TRIANGLE
aNEGATIVE CIRCLED TRIANGLEaCIRCLED SQUAREaNEGATIVE CIRCLED SQUARE"),
   (0x1F7E0, "aLARGE ORANGE CIRCLEgYELLOW CIRCLEgGREEN CIRCLEgPURPLE CIRCLEgBROWN CIRCLE
gRED SQUAREgBLUE SQUAREgORANGE SQUAREgYELLOW SQUAREgGREEN SQUAREgPURPLE SQUAREgBROWN SQUARE"),
   (0x1F7F0, "aHEAVY EQUALS SIGN"),
   (0x1F800, "aLEFTWARDS ARROW WITH SMALL TRIANGLE ARROWHEAD
aUPWARDS ARROW WITH SMALL TRIANGLE ARROWHEADaRIGHTWARDS ARROW WITH SMALL TRIANGLE ARROWHEAD
aDOWNWARDS ARROW WITH SMALL TRIANGLE ARROWHEADaLEFTWARDS ARROW WITH MEDIUM TRIANGLE ARROWHEAD
aUPWARDS ARROW WITH MEDIUM TRIANGLE ARROWHEADaRIGHTWARDS ARROW WITH MEDIUM TRIANGLE ARROWHEAD
aDOWNWARDS ARROW WITH MEDIUM TRIANGLE ARROWHEADaLEFTWARDS ARROW WITH LARGE TRIANGLE ARROWHEAD
aUPWARDS ARROW WITH LARGE TRIANGLE ARROWHEADaRIGHTWARDS ARROW WITH LARGE TRIANGLE ARROWHEAD
aDOWNWARDS ARROW WITH LARGE TRIANGLE ARROWHEAD"),
   (0x1F810, "aLEFTWARDS ARROW WITH SMALL EQUILATERAL ARROWHEAD
aUPWARDS ARROW WITH SMALL EQUILATERAL ARROWHEADaRIGHTWARDS ARROW WITH SMALL EQUILATERAL ARROWHEAD
aDOWNWARDS ARROW WITH SMALL EQUILATERAL ARROWHEADaLEFTWARDS ARROW WITH EQUILATERAL ARROWHEAD
aUPWARDS ARROW WITH EQUILATERAL ARROWHEADaRIGHTWARDS ARROW WITH EQUILATERAL ARROWHEAD
aDOWNWARDS ARROW WITH EQUILATERAL ARROWHEADaHEAVY LEFTWARDS ARROW WITH EQUILATERAL ARROWHEAD
gUPWARDS ARROW WITH EQUILATERAL ARROWHEADgRIGHTWARDS ARROW WITH EQUILATERAL ARROWHEAD
gDOWNWARDS ARROW WITH EQUILATERAL ARROWHEADgLEFTWARDS ARROW WITH LARGE EQUILATERAL ARROWHEAD
gUPWARDS ARROW WITH LARGE EQUILATERAL ARROWHEADgRIGHTWARDS ARROW WITH LARGE EQUILATERAL ARROWHEAD
gDOWNWARDS ARROW WITH LARGE EQUILATERAL ARROWHEAD
aLEFTWARDS TRIANGLE-HEADED ARROW WITH NARROW SHAFT
aUPWARDS TRIANGLE-HEADED ARROW WITH NARROW SHAFT
aRIGHTWARDS TRIANGLE-HEADED ARROW WITH NARROW SHAFT
aDOWNWARDS TRIANGLE-HEADED ARROW WITH NARROW SHAFT
aLEFTWARDS TRIANGLE-HEADED ARROW WITH MEDIUM SHAFT
aUPWARDS TRIANGLE-HEADED ARROW WITH MEDIUM SHAFT
aRIGHTWARDS TRIANGLE-HEADED ARROW WITH MEDIUM SHAFT
aDOWNWARDS TRIANGLE-HEADED ARROW WITH MEDIUM SHAFT
aLEFTWARDS TRIANGLE-HEADED ARROW WITH BOLD SHAFTaUPWARDS TRIANGLE-HEADED ARROW WITH BOLD SHAFT
aRIGHTWARDS TRIANGLE-HEADED ARROW WITH BOLD SHAFTaDOWNWARDS TRIANGLE-HEADED ARROW WITH BOLD SHAFT
aLEFTWARDS TRIANGLE-HEADED ARROW WITH HEAVY SHAFTaUPWARDS TRIANGLE-HEADED ARROW WITH HEAVY SHAFT
aRIGHTWARDS TRIANGLE-HEADED ARROW WITH HEAVY SHAFT
aDOWNWARDS TRIANGLE-HEADED ARROW WITH HEAVY SHAFT
aLEFTWARDS TRIANGLE-HEADED ARROW WITH VERY HEAVY SHAFT
aUPWARDS TRIANGLE-HEADED ARROW WITH VERY HEAVY SHAFT
aRIGHTWARDS TRIANGLE-HEADED ARROW WITH VERY HEAVY SHAFT
aDOWNWARDS TRIANGLE-HEADED ARROW WITH VERY HEAVY SHAFTaLEFTWARDS FINGER-POST ARROW
aUPWARDS FINGER-POST ARROWaRIGHTWARDS FINGER-POST ARROWaDOWNWARDS FINGER-POST ARROW
aLEFTWARDS SQUARED ARROWaUPWARDS SQUARED ARROWaRIGHTWARDS SQUARED ARROWaDOWNWARDS SQUARED ARROW
aLEFTWARDS COMPRESSED ARROWaUPWARDS COMPRESSED ARROWaRIGHTWARDS COMPRESSED ARROW
aDOWNWARDS COMPRESSED ARROWaLEFTWARDS HEAVY COMPRESSED ARROWaUPWARDS HEAVY COMPRESSED ARROW
aRIGHTWARDS HEAVY COMPRESSED ARROWaDOWNWARDS HEAVY COMPRESSED ARROWaLEFTWARDS HEAVY ARROW
aUPWARDS HEAVY ARROWaRIGHTWARDS HEAVY ARROWaDOWNWARDS HEAVY ARROW"),
   (0x1F850, "aLEFTWARDS SANS-SERIF ARROWaUPWARDS SANS-SERIF ARROWaRIGHTWARDS SANS-SERIF ARROW
aDOWNWARDS SANS-SERIF ARROWaNORTH WEST SANS-SERIF ARROWgEAST SANS-SERIF ARROW
aSOUTH EAST SANS-SERIF ARROWgWEST SANS-SERIF ARROWaLEFT RIGHT SANS-SERIF ARROW
aUP DOWN SANS-SERIF ARROW"),
   (0x1F860, "aWIDE-HEADED LEFTWARDS LIGHT BARB ARROWmUPWARDS LIGHT BARB ARROW
mRIGHTWARDS LIGHT BARB ARROWmDOWNWARDS LIGHT BARB ARROWmNORTH WEST LIGHT BARB ARROW
sEAST LIGHT BARB ARROWmSOUTH EAST LIGHT BARB ARROWsWEST LIGHT BARB ARROWmLEFTWARDS BARB ARROW
mUPWARDS BARB ARROWmRIGHTWARDS BARB ARROWmDOWNWARDS BARB ARROWmNORTH WEST BARB ARROW
sEAST BARB ARROWmSOUTH EAST BARB ARROWsWEST BARB ARROWmLEFTWARDS MEDIUM BARB ARROW
mUPWARDS MEDIUM BARB ARROWmRIGHTWARDS MEDIUM BARB ARROWmDOWNWARDS MEDIUM BARB ARROW
mNORTH WEST MEDIUM BARB ARROWsEAST MEDIUM BARB ARROWmSOUTH EAST MEDIUM BARB ARROW
sWEST MEDIUM BARB ARROWmLEFTWARDS HEAVY BARB ARROWmUPWARDS HEAVY BARB ARROW
mRIGHTWARDS HEAVY BARB ARROWmDOWNWARDS HEAVY BARB ARROWmNORTH WEST HEAVY BARB ARROW
sEAST HEAVY BARB ARROWmSOUTH EAST HEAVY BARB ARROWsWEST HEAVY BARB ARROW
mLEFTWARDS VERY HEAVY BARB ARROWmUPWARDS VERY HEAVY BARB ARROWmRIGHTWARDS VERY HEAVY BARB ARROW
mDOWNWARDS VERY HEAVY BARB ARROWmNORTH WEST VERY HEAVY BARB ARROWsEAST VERY HEAVY BARB ARROW
mSOUTH EAST VERY HEAVY BARB ARROWsWEST VERY HEAVY BARB ARROW"),
   (0x1F890, "aLEFTWARDS TRIANGLE ARROWHEADaUPWARDS TRIANGLE ARROWHEAD
aRIGHTWARDS TRIANGLE ARROWHEADaDOWNWARDS TRIANGLE ARROWHEAD
aLEFTWARDS WHITE ARROW WITHIN TRIANGLE ARROWHEADaUPWARDS WHITE ARROW WITHIN TRIANGLE ARROWHEAD
aRIGHTWARDS WHITE ARROW WITHIN TRIANGLE ARROWHEADaDOWNWARDS WHITE ARROW WITHIN TRIANGLE ARROWHEAD
aLEFTWARDS ARROW WITH NOTCHED TAILaUPWARDS ARROW WITH NOTCHED TAIL
aRIGHTWARDS ARROW WITH NOTCHED TAILaDOWNWARDS ARROW WITH NOTCHED TAILaHEAVY ARROW SHAFT WIDTH ONE
yTWO THIRDSyONE HALFγTHIRDaLEFTWARDS BOTTOM-SHADED WHITE ARROW
aRIGHTWARDS BOTTOM SHADED WHITE ARROWaLEFTWARDS TOP SHADED WHITE ARROW
aRIGHTWARDS TOP SHADED WHITE ARROWaLEFTWARDS LEFT-SHADED WHITE ARROW
aRIGHTWARDS RIGHT-SHADED WHITE ARROWaLEFTWARDS RIGHT-SHADED WHITE ARROW
aRIGHTWARDS LEFT-SHADED WHITE ARROWaLEFTWARDS BACK-TILTED SHADOWED WHITE ARROW
aRIGHTWARDS BACK-TILTED SHADOWED WHITE ARROWaLEFTWARDS FRONT-TILTED SHADOWED WHITE ARROW
aRIGHTWARDS FRONT-TILTED SHADOWED WHITE ARROWaWHITE ARROW SHAFT WIDTH ONEyTWO THIRDS"),
   (0x1F8B0, "aARROW POINTING UPWARDS THEN NORTH WESTpRIGHTWARDS THEN CURVING SOUTH WEST"),
   (0x1F900, "aCIRCLED CROSS FORMEE WITH FOUR DOTSαTWO DOTSuaLEFT HALF CIRCLE WITH FOUR DOTS
wTHREE DOTSxWO DOTSwDOTqaDOWNWARD FACING HOOKqNOTCHED HOOKqHOOK WITH DOTqNOTCHED HOOK WITH DOT
aPINCHED FINGERSaWHITE HEARTaBROWN HEARTaPINCHING HANDaZIPPER-MOUTH FACEaMONEY-MOUTH FACE
aFACE WITH THERMOMETERaNERD FACEaTHINKING FACEaFACE WITH HEAD-BANDAGEaROBOT FACEaHUGGING FACE
aSIGN OF THE HORNSaCALL ME HANDaRAISED BACK OF HANDaLEFT-FACING FISTaRIGHT-FACING FISTaHANDSHAKE
e WITH INDEX AND MIDDLE FINGERS CROSSEDaI LOVE YOU HAND SIGNaFACE WITH COWBOY HATaCLOWN FACE
aNAUSEATED FACEaROLLING ON THE FLOOR LAUGHINGaDROOLING FACEaLYING FACEaFACE PALMaSNEEZING FACE
aFACE WITH ONE EYEBROW RAISEDaGRINNING FACE WITH STAR EYEStONE LARGE AND ONE SMALL EYE
aFACE WITH FINGER COVERING CLOSED LIPSaSERIOUS FACE WITH SYMBOLS COVERING MOUTH
bMILING FACE WITH SMILING EYES AND HAND COVERING MOUTHaFACE WITH OPEN MOUTH VOMITING
aSHOCKED FACE WITH EXPLODING HEADaPREGNANT WOMANaBREAST-FEEDINGaPALMS UP TOGETHERaSELFIEaPRINCE
aMAN IN TUXEDObOTHER CHRISTMASaSHRUGaPERSON DOING CARTWHEELaJUGGLINGaFENCERaMODERN PENTATHLON
aWRESTLERSbATER POLOaHANDBALLaDIVING MASKaWILTED FLOWERaDRUM WITH DRUMSTICKSaCLINKING GLASSES
aTUMBLER GLASSaSPOONaGOAL NETaRIFLEaFIRST PLACE MEDALaSECOND PLACE MEDALaTHIRD PLACE MEDAL
aBOXING GLOVEaMARTIAL ARTS UNIFORMaCURLING STONEaLACROSSE STICK AND BALLaSOFTBALLaFLYING DISC
aCROISSANTaAVOCADOaCUCUMBERaBACONaPOTATOaCARROTaBAGUETTE BREADaGREEN SALADaSHALLOW PAN OF FOOD
bTUFFED FLATBREADaEGGaGLASS OF MILKaPEANUTSaKIWIFRUITaPANCAKESaDUMPLINGaFORTUNE COOKIE
aTAKEOUT BOXaCHOPSTICKSaBOWL WITH SPOONaCUP WITH STRAWbOCONUTaBROCCOLIaPIEbRETZELaCUT OF MEAT
aSANDWICHaCANNED FOODaLEAFY GREENaMANGObOON CAKEaBAGEL
aSMILING FACE WITH SMILING EYES AND THREE HEARTSaYAWNING FACEaSMILING FACE WITH TEAR
aFACE WITH PARTY HORN AND PARTY HATkUNEVEN EYES AND WAVY MOUTHaOVERHEATED FACEaFREEZING FACE
aNINJAaDISGUISED FACEaFACE HOLDING BACK TEARSfWITH PLEADING EYESaSARIaLAB COATaGOGGLES
aHIKING BOOTaFLAT SHOEaCRABaLION FACEaSCORPIONaTURKEYaUNICORN FACEaEAGLEaDUCKaBATaSHARKaOWL
aFOX FACEaBUTTERFLYaDEERaGORILLAaLIZARDaRHINOCEROSaSHRIMPbQUIDaGIRAFFE FACEaZEBRA FACEaHEDGEHOG
aSAUROPODaT-REXaCRICKETaKANGAROOaLLAMAaPEACOCKaHIPPOPOTAMUSaPARROTaRACCOONaLOBSTERaMOSQUITO
bICROBEaBADGERaSWANaMAMMOTHaDODOaSLOTHaOTTERbRANGUTANaSKUNKaFLAMINGOaOYSTERaBEAVERbISONaSEAL
aGUIDE DOGaPROBING CANEaEMOJI COMPONENT RED HAIRqCURLY HAIRqBALDqWHITE HAIRaBONEaLEGaFOOTaTOOTH
aSUPERHEROfVILLAINbAFETY VESTaEAR WITH HEARING AIDaMOTORIZED WHEELCHAIRbANUAL WHEELCHAIR
bECHANICAL ARMlLEGaCHEESE WEDGEbUPCAKEaSALT SHAKERaBEVERAGE BOXaGARLICaONIONaFALAFELaWAFFLE
aBUTTERaMATE DRINKaICE CUBEaBUBBLE TEAaTROLLaSTANDING PERSONaKNEELING PERSONaDEAF PERSON
aFACE WITH MONOCLEaADULTaCHILDaOLDER ADULTaBEARDED PERSONaPERSON WITH HEADSCARFhIN STEAMY ROOM
hCLIMBINGhIN LOTUS POSITIONaMAGEaFAIRYaVAMPIREaMERPERSONaELFaGENIEaZOMBIEaBRAINaORANGE HEART
aBILLED CAPaSCARFaGLOVESaCOATaSOCKSaRED GIFT ENVELOPEaFIRECRACKERaJIGSAW PUZZLE PIECEaTEST TUBE
aPETRI DISHaDNA DOUBLE HELIXaCOMPASSaABACUSaFIRE EXTINGUISHERaTOOLBOXaBRICKaMAGNETaLUGGAGE
bOTION BOTTLEaSPOOL OF THREADaBALL OF YARNaSAFETY PINaTEDDY BEARaBROOMbASKETaROLL OF PAPER
aBAR OF SOAPaSPONGEaRECEIPTaNAZAR AMULETbEUTRAL CHESS KINGoQUEENoROOKoBISHOPoKNIGHToPAWN
aWHITE CHESS KNIGHT ROTATED FORTY-FIVE DEGREESaBLACK CHESS KNIGHT ROTATED FORTY-FIVE DEGREES
aNEUTRAL CHESS KNIGHT ROTATED FORTY-FIVE DEGREESaWHITE CHESS KING ROTATED NINETY DEGREES
mQUEEN ROTATED NINETY DEGREESmROOK ROTATED NINETY DEGREESmBISHOP ROTATED NINETY DEGREES
mKNIGHT ROTATED NINETY DEGREESmPAWN ROTATED NINETY DEGREES
aBLACK CHESS KING ROTATED NINETY DEGREESmQUEEN ROTATED NINETY DEGREESmROOK ROTATED NINETY DEGREES
mBISHOP ROTATED NINETY DEGREESmKNIGHT ROTATED NINETY DEGREESmPAWN ROTATED NINETY DEGREES
aNEUTRAL CHESS KING ROTATED NINETY DEGREESoQUEEN ROTATED NINETY DEGREES
oROOK ROTATED NINETY DEGREESoBISHOP ROTATED NINETY DEGREESoKNIGHT ROTATED NINETY DEGREES
oPAWN ROTATED NINETY DEGREESaWHITE CHESS KNIGHT ROTATED ONE HUNDRED THIRTY-FIVE DEGREES
aBLACK CHESS KNIGHT ROTATED ONE HUNDRED THIRTY-FIVE DEGREES
aNEUTRAL CHESS KNIGHT ROTATED ONE HUNDRED THIRTY-FIVE DEGREESaWHITE CHESS TURNED KINGtQUEENtROOK
tBISHOPtKNIGHTtPAWNaBLACK CHESS TURNED KINGtQUEENtROOKtBISHOPtKNIGHTtPAWN
aNEUTRAL CHESS TURNED KINGvQUEENvROOKvBISHOPvKNIGHTvPAWN
aWHITE CHESS KNIGHT ROTATED TWO HUNDRED TWENTY-FIVE DEGREES
aBLACK CHESS KNIGHT ROTATED TWO HUNDRED TWENTY-FIVE DEGREES
aNEUTRAL CHESS KNIGHT ROTATED TWO HUNDRED TWENTY-FIVE DEGREES
aWHITE CHESS KING ROTATED TWO HUNDRED SEVENTY DEGREESmQUEEN ROTATED TWO HUNDRED SEVENTY DEGREES
mROOK ROTATED TWO HUNDRED SEVENTY DEGREESmBISHOP ROTATED TWO HUNDRED SEVENTY DEGREES
mKNIGHT ROTATED TWO HUNDRED SEVENTY DEGREESmPAWN ROTATED TWO HUNDRED SEVENTY DEGREES
aBLACK CHESS KING ROTATED TWO HUNDRED SEVENTY DEGREESmQUEEN ROTATED TWO HUNDRED SEVENTY DEGREES
mROOK ROTATED TWO HUNDRED SEVENTY DEGREESmBISHOP ROTATED TWO HUNDRED SEVENTY DEGREES
mKNIGHT ROTATED TWO HUNDRED SEVENTY DEGREESmPAWN ROTATED TWO HUNDRED SEVENTY DEGREES
aNEUTRAL CHESS KING ROTATED TWO HUNDRED SEVENTY DEGREESoQUEEN ROTATED TWO HUNDRED SEVENTY DEGREES
oROOK ROTATED TWO HUNDRED SEVENTY DEGREESoBISHOP ROTATED TWO HUNDRED SEVENTY DEGREES
oKNIGHT ROTATED TWO HUNDRED SEVENTY DEGREESoPAWN ROTATED TWO HUNDRED SEVENTY DEGREES
aWHITE CHESS KNIGHT ROTATED THREE HUNDRED FIFTEEN DEGREES
aBLACK CHESS KNIGHT ROTATED THREE HUNDRED FIFTEEN DEGREES
aNEUTRAL CHESS KNIGHT ROTATED THREE HUNDRED FIFTEEN DEGREESaWHITE CHESS EQUIHOPPER
aBLACK CHESS EQUIHOPPERaNEUTRAL CHESS EQUIHOPPERaWHITE CHESS EQUIHOPPER ROTATED NINETY DEGREES
aBLACK CHESS EQUIHOPPER ROTATED NINETY DEGREESaNEUTRAL CHESS EQUIHOPPER ROTATED NINETY DEGREES
aWHITE CHESS KNIGHT-QUEENtROOKtBISHOPaBLACK CHESS KNIGHT-QUEENtROOKtBISHOP"),
   (0x1FA60, "aXIANGQI RED GENERALmMANDARINmELEPHANTmHORSEmCHARIOTnANNONmSOLDIERiBLACK GENERAL
oMANDARINoELEPHANToHORSEoCHARIOTpANNONoSOLDIER"),
   (0x1FA70, "aBALLET SHOESaONE-PIECE SWIMSUITaBRIEFSaSHORTSaTHONG SANDAL"),
   (0x1FA78, "aDROP OF BLOODaADHESIVE BANDAGEaSTETHOSCOPEaX-RAYaCRUTCH"),
   (0x1FA80, "aYO-YOaKITEaPARACHUTEaBOOMERANGaMAGIC WANDaPINATAaNESTING DOLLS"),
   (0x1FA90, "aRINGED PLANETaCHAIRaRAZORaAXEaDIYA LAMPaBANJOaMILITARY HELMETaACCORDIONaLONG DRUM
aCOINbARPENTRY SAWaSCREWDRIVERaLADDERaHOOKaMIRRORaWINDOWaPLUNGERaSEWING NEEDLEaKNOTaBUCKET
aMOUSE TRAPaTOOTHBRUSHaHEADSTONEaPLACARDaROCKaMIRROR BALLaIDENTIFICATION CARDaLOW BATTERYaHAMSA"),
   (0x1FAB0, "aFLYaWORMaBEETLEaCOCKROACHaPOTTED PLANTaWOODaFEATHERaLOTUSaCORALaEMPTY NEST
aNEST WITH EGGS"),
   (0x1FAC0, "aANATOMICAL HEARTaLUNGSaPEOPLE HUGGINGbREGNANT MANjPERSONbERSON WITH CROWN"),
   (0x1FAD0, "aBLUEBERRIESbELL PEPPERaOLIVEaFLATBREADaTAMALEaFONDUEaTEAPOTaPOURING LIQUIDaBEANS
aJAR"),
   (0x1FAE0, "aMELTING FACEaSALUTING FACEaFACE WITH OPEN EYES AND HAND OVER MOUTHkPEEKING EYE
kDIAGONAL MOUTHaDOTTED LINE FACEaBITING LIPbUBBLES"),
   (0x1FAF0, "aHAND WITH INDEX FINGER AND THUMB CROSSEDaRIGHTWARDS HANDaLEFTWARDS HAND
aPALM DOWN HANDfUP HANDaINDEX POINTING AT THE VIEWERaHEART HANDS"),
   (0x1FB00, "aBLOCK SEXTANT-1o2o12o3o13o23o123o4o14o24o124o34o134o234o1234o5o15o25o125o35o235
o1235o45o145o245o1245o345o1345o2345o12345o6o16o26o126o36o136o236o1236o46o146p246o346o1346o2346
o12346o56o156o256o1256o356o1356o2356o12356o456o1456o2456o12456o3456o13456o23456
aLOWER LEFT BLOCK DIAGONAL LOWER MIDDLE LEFT TO LOWER CENTREωER RIGHT
αUPPER MIDDLE LEFT TO LOWER CENTREωER RIGHTηLEFT TO LOWER CENTRE
gRIGHT BLOCK DIAGONAL UPPER MIDDLE LEFT TO UPPER CENTREωPER RIGHT
βLOWER MIDDLE LEFT TO UPPER CENTREωPER RIGHTθLEFT TO UPPER CENTRE
θMIDDLE LEFT TO UPPER MIDDLE RIGHTθCENTRE TO LOWER MIDDLE RIGHTθLEFT TO LOWER MIDDLE RIGHT
θCENTRE TO UPPER MIDDLE RIGHTθLEFT TO UPPER MIDDLE RIGHTθCENTRE TO UPPER RIGHT
gLEFT BLOCK DIAGONAL UPPER CENTRE TO UPPER MIDDLE RIGHTηLEFT TO UPPER MIDDLE RIGHT
ηCENTRE TO LOWER MIDDLE RIGHTηLEFT TO LOWER MIDDLE RIGHTηCENTRE TO LOWER RIGHT
ηMIDDLE LEFT TO LOWER MIDDLE RIGHTaUPPER RIGHT BLOCK DIAGONAL LOWER MIDDLE LEFT TO LOWER CENTRE
ωWER RIGHTβUPPER MIDDLE LEFT TO LOWER CENTREωWER RIGHTθLEFT TO LOWER CENTRE
gLEFT BLOCK DIAGONAL UPPER MIDDLE LEFT TO UPPER CENTREωER RIGHTαLOWER MIDDLE LEFT TO UPPER CENTRE
ωER RIGHTηLEFT TO UPPER CENTREηMIDDLE LEFT TO UPPER MIDDLE RIGHTηCENTRE TO LOWER MIDDLE RIGHT
ηLEFT TO LOWER MIDDLE RIGHTηCENTRE TO UPPER MIDDLE RIGHTηLEFT TO UPPER MIDDLE RIGHT
ηCENTRE TO UPPER RIGHTgRIGHT BLOCK DIAGONAL UPPER CENTRE TO UPPER MIDDLE RIGHT
θLEFT TO UPPER MIDDLE RIGHTθCENTRE TO LOWER MIDDLE RIGHTθLEFT TO LOWER MIDDLE RIGHT
θCENTRE TO LOWER RIGHTθMIDDLE LEFT TO LOWER MIDDLE RIGHT
gAND RIGHT AND LOWER TRIANGULAR THREE QUARTERS BLOCK
aLEFT AND LOWER AND RIGHT TRIANGULAR THREE QUARTERS BLOCK
aUPPER AND LEFT AND LOWER TRIANGULAR THREE QUARTERS BLOCK
aLEFT AND UPPER AND RIGHT TRIANGULAR THREE QUARTERS BLOCKfTRIANGULAR ONE QUARTER BLOCK
aUPPER TRIANGULAR ONE QUARTER BLOCKaRIGHT TRIANGULAR ONE QUARTER BLOCK
aLOWER TRIANGULAR ONE QUARTER BLOCKaVERTICAL ONE EIGHTH BLOCK-2α3α4α5α6α7
aHORIZONTAL ONE EIGHTH BLOCK-2γ3γ4γ5γ6γ7aLEFT AND LOWER ONE EIGHTH BLOCKjUPPER ONE EIGHTH BLOCK
aRIGHT AND UPPER ONE EIGHTH BLOCKkLOWER ONE EIGHTH BLOCKaUPPER AND LOWER ONE EIGHTH BLOCK
aHORIZONTAL ONE EIGHTH BLOCK-1358aUPPER ONE QUARTER BLOCKgTHREE EIGHTHS BLOCKgFIVE EIGHTHS BLOCK
gTHREE QUARTERS BLOCKgSEVEN EIGHTHS BLOCKaRIGHT ONE QUARTER BLOCKgTHREE EIGHTHS BLOCK
gFIVE EIGHTHS BLOCKgTHREE QUARTERS BLOCKgSEVEN EIGHTHS BLOCKaLEFT HALF MEDIUM SHADE
aRIGHT HALF MEDIUM SHADEaUPPER HALF MEDIUM SHADEaLOWER HALF MEDIUM SHADEaINVERSE MEDIUM SHADE
aUPPER HALF BLOCK AND LOWER HALF INVERSE MEDIUM SHADElINVERSE MEDIUM SHADE AND LOWER HALF BLOCK"),
   (0x1FB94, "aLEFT HALF INVERSE MEDIUM SHADE AND RIGHT HALF BLOCKaCHECKER BOARD FILL
aINVERSE CHECKER BOARD FILLaHEAVY HORIZONTAL FILLaUPPER LEFT TO LOWER RIGHT FILL
gRIGHT TO LOWER LEFT FILLgAND LOWER TRIANGULAR HALF BLOCKaLEFT AND RIGHT TRIANGULAR HALF BLOCK
aUPPER LEFT TRIANGULAR MEDIUM SHADEgRIGHT TRIANGULAR MEDIUM SHADE
aLOWER RIGHT TRIANGULAR MEDIUM SHADEgLEFT TRIANGULAR MEDIUM SHADE
aBOX DRAWINGS LIGHT DIAGONAL UPPER CENTRE TO MIDDLE LEFTω RIGHTγMIDDLE LEFT TO LOWER CENTRE
κRIGHT TO LOWER CENTREγUPPER CENTRE TO MIDDLE LEFT TO LOWER CENTREω RIGHT TO LOWER CENTRE
γMIDDLE LEFT TO LOWER CENTRE TO MIDDLE RIGHTςUPPER CENTRE TO MIDDLE RIGHT
γUPPER CENTRE TO MIDDLE LEFT AND MIDDLE RIGHT TO LOWER CENTRE
ω RIGHT AND MIDDLE LEFT TO LOWER CENTREω RIGHT TO LOWER CENTRE TO MIDDLE LEFT
ω LEFT TO LOWER CENTRE TO MIDDLE RIGHT
γMIDDLE LEFT TO UPPER CENTRE TO MIDDLE RIGHT TO LOWER CENTRE
κRIGHT TO UPPER CENTRE TO MIDDLE LEFT TO LOWER CENTREγDIAMONDtHORIZONTAL WITH VERTICAL STROKE
aARROWHEAD-SHAPED POINTERaINVERSE CHECK MARKaLEFT HALF RUNNING MANaRIGHT HALF RUNNING MAN
aINVERSE DOWNWARDS ARROW WITH TIP LEFTWARDSaLEFTWARDS ARROW AND UPPER AND LOWER ONE EIGHTH BLOCK
aRIGHTWARDS ARROW AND UPPER AND LOWER ONE EIGHTH BLOCKaDOWNWARDS ARROW AND RIGHT ONE EIGHTH BLOCK
aUPWARDS ARROW AND RIGHT ONE EIGHTH BLOCKaLEFT HALF FOLDERaRIGHT HALF FOLDERaVOIDED GREEK CROSS
aRIGHT OPEN SQUARED DOTaNEGATIVE DIAGONAL CROSSsMIDDLE RIGHT TO LOWER CENTREsDIAMOND
aWHITE HEAVY SALTIRE WITH ROUNDED CORNERSaLEFT THIRD WHITE RIGHT POINTING INDEX
aMIDDLE THIRD WHITE RIGHT POINTING INDEXaRIGHT THIRD WHITE RIGHT POINTING INDEX
aNEGATIVE SQUARED QUESTION MARKaSTICK FIGUREm WITH ARMS RAISEDnLEANING LEFTvRIGHTnWITH DRESS
aWHITE UP-POINTING CHEVRON"),
   (0x1FBF0, "aSEGMENTED DIGIT ZEROqONEqTWOrHREEqFOURrIVEqSIXrEVENqEIGHTqNINE"),
   (0xE0001, "aLANGUAGE TAG"),
   (0xE0020, "aTAG SPACEeEXCLAMATION MARKeQUOTATION MARKeNUMBER SIGNeDOLLAR SIGNePERCENT SIGN
eAMPERSANDfPOSTROPHEeLEFT PARENTHESISeRIGHT PARENTHESISeASTERISKePLUS SIGNeCOMMAeHYPHEN-MINUS
eFULL STOPeSOLIDUSeDIGIT ZEROkONEkTWOlHREEkFOURlIVEkSIXlEVENkEIGHTkNINEeCOLONeSEMICOLON
eLESS-THAN SIGNeEQUALS SIGNeGREATER-THAN SIGNeQUESTION MARKeCOMMERCIAL ATeLATIN CAPITAL LETTER A
zBzCzDzEzFzGzHzIzJzKzLzMzNzOzPzQzRzSzTzUzVzWzXzYzZfEFT SQUARE BRACKETeREVERSE SOLIDUS
fIGHT SQUARE BRACKETeCIRCUMFLEX ACCENTeLOW LINEeGRAVE ACCENTeLATIN SMALL LETTER AxBxCxDxExFxGxHxI
xJxKxLxMxNxOxPxQxRxSxTxUxVxWxXxYxZfEFT CURLY BRACKETeVERTICAL LINEeRIGHT CURLY BRACKETeTILDE
aCANCEL TAG"),
   (0xE0100, "aVARIATION SELECTOR-17u8u9t20u1u2u3u4u5u6u7u8u9t30u1u2u3u4u5u6u7u8u9t40u1u2u3u4u5u6
u7u8u9t50u1u2u3u4u5u6u7u8u9t60u1u2u3u4u5u6u7u8u9t70u1u2u3u4u5u6u7u8u9t80u1u2u3u4u5u6u7u8u9t90u1u2
u3u4u5u6u7u8u9t100v1v2v3v4v5v6v7v8v9u10v1v2v3v4v5v6v7v8v9u20v1v2v3v4v5v6v7v8v9u30v1v2v3v4v5v6v7v8
v9u40v1v2v3v4v5v6v7v8v9u50v1v2v3v4v5v6v7v8v9u60v1v2v3v4v5v6v7v8v9u70v1v2v3v4v5v6v7v8v9u80v1v2v3v4
v5v6v7v8v9u90v1v2v3v4v5v6v7v8v9t200v1v2v3v4v5v6v7v8v9u10v1v2v3v4v5v6v7v8v9u20v1v2v3v4v5v6v7v8v9
u30v1v2v3v4v5v6v7v8v9u40v1v2v3v4v5v6v7v8v9u50v1v2v3v4v5v6")]

end DocBraces.Text
