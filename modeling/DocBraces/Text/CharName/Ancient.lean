/-!
# Names of characters: historic scripts

Rows of names of consecutive code points, each row with its first code point. A name
is written as a mark and a tail: the mark says how many characters it shares with the
name before it.
-/

set_option autoImplicit false

namespace DocBraces.Text

def ancientNames : List (Nat × String) :=
  [(0x10000, "aLINEAR B SYLLABLE B008 Au38 Eu28 Iu61 Ou10 Uu01 DAu45 DEu07 DIu14 DOu51 DUv7 JA
u46 JE"),
   (0x1000D, "aLINEAR B SYLLABLE B036 JOu65 JUu77 KAu44 KEu67 KIu70 KOu81 KUv0 MAu13 MEu73 MI
u15 MOu23 MUu06 NAu24 NEu30 NIu52 NOv5 NUu03 PAu72 PEu39 PIu11 POu50 PUu16 QAu78 QEu21 QIu32 QO"),
   (0x10028, "aLINEAR B SYLLABLE B060 RAu27 REu53 RIu02 ROu26 RUu31 SAu09 SEu41 SIu12 SOu58 SU
v9 TAu04 TEu37 TIu05 TOu69 TUu54 WAu75 WEu40 WIv2 WO"),
   (0x1003C, "aLINEAR B SYLLABLE B017 ZAu74 ZE"),
   (0x1003F, "aLINEAR B SYLLABLE B020 ZOv5 A2u43 A3u85 AUu71 DWEu90 DWOu48 NWAu29 PU2u62 PTE
u76 RA2u33 RA3u68 RO2v6 TA2u87 TWEu91 TWO"),
   (0x10050, "aLINEAR B SYMBOL B018t9s22s34s47t9s56s63t4s79s82t3t6t9"),
   (0x10080, "aLINEAR B IDEOGRAM B100 MANv2 WOMANv4 DEERv5 EQUIDwF MAREwM STALLIONv6F EWEwM RAM
v7F SHE-GOATwM HE-GOATv8F SOWwM BOARv9F COWwM BULLu20 WHEATv1 BARLEYv2 OLIVEv3 SPICEv5 CYPERUS
jMONOGRAM B127 KAPOv8 KANAKOjIDEOGRAM B130 OILv1 WINEv2jMONOGRAM B133 AREPAv5 MERI
jIDEOGRAM B140 BRONZEv1 GOLDv2v5 WOOLv6u50v1 HORNv2v3v4jMONOGRAM B156 TURO2jIDEOGRAM B157v8
v9 CLOTHu60v1v2 GARMENTv3 ARMOURv4v5v6v7v8v9u70v1v2v3 MONTHv4v6 TREEv7v8v9u80v1v2v3v4v5v9u90
v1 HELMETt220 FOOTSTOOLv5 BATHTUBu30 SPEARv1 ARROWv2v3 SWORDv4v6u40 WHEELED CHARIOTv1 CHARIOT
v2 CHARIOT FRAMEv3 WHEELv5v6jMONOGRAM B247 DIPTEjIDEOGRAM B248v9u51v2v3v4 DARTv5v6v7v8v9
sVESSEL B155α200γ1γ2γ3γ4γ5γ6γ7γ8γ9β10γ1γ2γ3γ4γ5γ6γ7γ8γ9β21γ2γ6γ7γ8γ9β50α305"),
   (0x10100, "aAEGEAN WORD SEPARATOR LINEwDOThCHECK MARK"),
   (0x10107, "aAEGEAN NUMBER ONEoTWOpHREEoFOURpIVEoSIXpEVENoEIGHToNINEoTENpWENTYpHIRTYoFORTYpIFTY
oSIXTYpEVENTYoEIGHTYoNINETYoONE HUNDREDoTWO HUNDREDpHREE HUNDREDoFOUR HUNDREDpIVE HUNDRED
oSIX HUNDREDpEVEN HUNDREDoEIGHT HUNDREDoNINE HUNDREDoONE THOUSANDoTWO THOUSANDpHREE THOUSAND
oFOUR THOUSANDpIVE THOUSANDoSIX THOUSANDpEVEN THOUSANDoEIGHT THOUSANDoNINE THOUSANDoTEN THOUSAND
pWENTY THOUSANDpHIRTY THOUSANDoFORTY THOUSANDpIFTY THOUSANDoSIXTY THOUSANDpEVENTY THOUSAND
oEIGHTY THOUSANDoNINETY THOUSAND"),
   (0x10137, "aAEGEAN WEIGHT BASE UNIToFIRST SUBUNIToSECOND SUBUNIToTHIRD SUBUNIToFOURTH SUBUNIT
hDRY MEASURE FIRST SUBUNIThLIQUID MEASURE FIRST SUBUNIThMEASURE SECOND SUBUNITpTHIRD SUBUNIT
aGREEK ACROPHONIC ATTIC ONE QUARTERβHALFβDRACHMAxFIVEzFTYzVE HUNDREDγTHOUSANDzFTY THOUSAND
zVE TALENTSxTEN TALENTSxFIFTY TALENTSxONE HUNDRED TALENTSxFIVE HUNDRED TALENTS
xONE THOUSAND TALENTSxFIVE THOUSAND TALENTSγSTATERSxTEN STATERSxFIFTY STATERSxONE HUNDRED STATERS
xFIVE HUNDRED STATERSxONE THOUSAND STATERSxTEN THOUSAND STATERSxFIFTY THOUSAND STATERSxTEN MNAS
rHERAEUM ONE PLETHRONrTHESPIAN ONErHERMIONIAN ONErEPIDAUREAN TWOrTHESPIAN TWO
rCYRENAIC TWO DRACHMASrEPIDAUREAN TWO DRACHMASrTROEZENIAN FIVEγTENζ ALTERNATE FORMrHERMIONIAN TEN
rMESSENIAN TENrTHESPIAN TENβHIRTYsROEZENIAN FIFTYθ ALTERNATE FORMrHERMIONIAN FIFTYrTHESPIAN FIFTY
αONE HUNDREDαTHREE HUNDREDrEPIDAUREAN FIVE HUNDREDrTROEZENIAN FIVE HUNDREDsHESPIAN FIVE HUNDRED
rCARYSTIAN FIVE HUNDREDrNAXIAN FIVE HUNDREDrTHESPIAN ONE THOUSANDαFIVE THOUSANDrDELPHIC FIVE MNAS
rSTRATIAN FIFTY MNASgONE HALF SIGNt ALTERNATE FORMgTWO THIRDS SIGNhHREE QUARTERS SIGNgYEAR SIGN
gTALENT SIGNgDRACHMA SIGNgOBOL SIGNgTWO OBOLS SIGNhHREE OBOLS SIGNgFOUR OBOLS SIGNhIVE OBOLS SIGN
gMETRETES SIGNgKYATHOS BASE SIGNgLITRA SIGNgOUNKIA SIGNgXESTES SIGNgARTABE SIGNiOURA SIGN
gGRAMMA SIGNgTRYBLION BASE SIGNgZERO SIGNgONE QUARTER SIGNgSINUSOID SIGNgINDICTION SIGN
aNOMISMA SIGN"),
   (0x10190, "aROMAN SEXTANS SIGNgUNCIA SIGNgSEMUNCIA SIGNiXTULA SIGNgDIMIDIA SEXTULA SIGN
gSILIQUA SIGNgDENARIUS SIGNgQUINARIUS SIGNgSESTERTIUS SIGNgDUPONDIUS SIGNgAS SIGNgCENTURIAL SIGN
aASCIA SYMBOL"),
   (0x101A0, "aGREEK SYMBOL TAU RHO"),
   (0x101D0, "aPHAISTOS DISC SIGN PEDESTRIANuLUMED HEADtTATTOOED HEADtCAPTIVEuHILDtWOMANtHELMET
tGAUNTLETtTIARAtARROWtBOWtSHIELDtCLUBtMANACLESvTTOCKtSAWtLIDtBOOMERANGtCARPENTRY PLANEtDOLIUM
tCOMBtSLINGtCOLUMNtBEEHIVEtSHIPtHORNuIDEtBULLS LEGtCATtRAMtEAGLEtDOVEtTUNNYtBEEtPLANE TREEtVINE
tPAPYRUStROSETTEtLILYtOX BACKtFLUTEtGRATERtSTRAINERuMALL AXEtWAVY BANDtCOMBINING OBLIQUE STROKE"),
   (0x10280, "aLYCIAN LETTER AoEoBpHoGoDoIoWoZoTHoJoKoQoLoMoNoMMoNNoUoPoKKoRoSoTpToANoENoHoX"),
   (0x102A0, "aCARIAN LETTER AoP2oDoLoUUUoRoLDoA2oQoBoMoOoD2oToSHq2poC-18oUoNNoXoNoTT2oPoSSoIoE
oUUUUoKp2oNDoUUoGp2oSTq2oNGoIIoC-39oTToUUU2oRRoMBq2q3q4oLD2oE2oUUU3"),
   (0x102E0, "aCOPTIC EPACT THOUSANDS MARKnDIGIT ONEtTWOuHREEtFOURuIVEtSIXuEVENtEIGHTtNINE
nNUMBER TENvWENTYvHIRTYuFORTYvIFTYuSIXTYvEVENTYuEIGHTYuNINETYuONE HUNDREDuTWO HUNDRED
vHREE HUNDREDuFOUR HUNDREDvIVE HUNDREDuSIX HUNDREDvEVEN HUNDREDuEIGHT HUNDREDuNINE HUNDRED"),
   (0x10300, "aOLD ITALIC LETTER AsBEsKEsDEsEsVEsZEsHEsTHEsIsKAsELtMtNtSHsOsPEsSHEsKUsERtSsTEsU
sEKSsPHEsKHEsEFtRSsCHEsIIsUUsESSlNUMERAL ONEtFIVEtTENtFIFTY"),
   (0x1032D, "aOLD ITALIC LETTER YEsNORTHERN TSEsSOUTHERN TSEaGOTHIC LETTER AHSAoBAIRKANoGIBA
oDAGSoAIHVUSoQAIRTHRAoIUJAoHAGLoTHIUTHoEISoKUSMAoLAGUSoMANNAoNAUTHSoJERoURUSoPAIRTHRAoNINETY
oRAIDAoSAUILoTEIWSoWINJAoFAIHUoIGGWSoHWAIRoOTHALoNINE HUNDRED"),
   (0x10350, "aOLD PERMIC LETTER ANsBURsGAIsDOIsEsZHOIsDZHOIsZATAsDZITAsIsKOKEsLEIsMENOEsNENOE
sVOOIsPEEIsREIsSIIsTAIsUsCHERYsSHOOIuCHOOIsYRYtERUsOtOsEFsHAsTSIUsVERsYERvItATsIEsYUtAsIA
aCOMBINING OLD PERMIC LETTER ANγDOIγZATAγNENOEγSII"),
   (0x10380, "aUGARITIC LETTER ALPAqBETAqGAMLAqKHAqDELTAqHOqWOqZETAqHOTAqTETqYODqKAFqSHINqLAMDA
qMEMqDHALqNUNqZUqSAMKAqAINqPUqSADEqQOPAqRASHAqTHANNAqGHAINqTOqIqUqSSU"),
   (0x1039F, "aUGARITIC WORD DIVIDERaOLD PERSIAN SIGN ArIrUrKAsUrGAsUrXArCArJAsIrTAsUrDAsIsUrTHA
rPArBArFArNAsUrMAsIsUrYArVAsIrRAsUrLArSArZArSHAsSArHA"),
   (0x103C8, "aOLD PERSIAN SIGN AURAMAZDAAβ-2βHArXSHAAYATHIYArDAHYAAUSHα-2rBAGAsUUMISH
mWORD DIVIDERmNUMBER ONEtTWOuENuWENTYtHUNDRED"),
   (0x10400, "aDESERET CAPITAL LETTER LONG IγEγAδHγOδOxSHORT IδEδAεHδOεOxAYxOWxWUxYEExHxPEExBEE
xTEExDEExCHEExJEExKAYxGAYxEFxVEExETHxTHEExESxZEExESHxZHEExERyLyMyNzGxOIxEWiSMALL LETTER LONG IαE
αAβHαOβOvSHORT IβEβAγHβOγOvAYvOWvWUvYEEvHvPEEvBEEvTEEvDEEvCHEEvJEEvKAYvGAYvEFvVEEvETHvTHEEvESvZEE
vESHvZHEEvERwLwMwNxGvOIvEWaSHAVIAN LETTER PEEPpTOTpKICKpFEEpTHIGHpSOqUREpCHURCHpYEApHUNGpBIBpDEAD
pGAGpVOWpTHEYpZOOpMEASUREpJUDGEpWOEpHA-HApLOLLpMIMEpIFpEGGpASHqDOpONpWOOLpOUTpAHpROARpNUNpEATpAGE
pICEpUPpOAKqOZEqILpAWEqREpORpAIRpERRpARRAYpEARpIANpYEWaOSMANYA LETTER ALEFpBApTApJApXApKHApDEEL
pRApSAqHIINpDHApCAYNpGApFApQAAFpKAAFpLAANpMIINpNUUNpWAWpHApYApApEpIpOpUpAApEEpOO"),
   (0x104A0, "aOSMANYA DIGIT ZEROoONEoTWOpHREEoFOURpIVEoSIXpEVENoEIGHToNINE"),
   (0x104B0, "aOSAGE CAPITAL LETTER AwIxNwHvBRAvCHAvEHCHAwwINvHAwYAvIvKAvEHKAvKYAvLAvMAvNAvOwIN
vPAvEHPAvSAwHAvTAvEHTAvTSAvEHTSAvTSHAvDHAvUvWAvKHAvGHAvZAwHA"),
   (0x104D8, "aOSAGE SMALL LETTER AuIvNuHtBRAtCHAtEHCHAuuINtHAuYAtItKAtEHKAtKYAtLAtMAtNAtOuINtPA
tEHPAtSAuHAtTAtEHTAtTSAtEHTSAtTSHAtDHAtUtWAtKHAtGHAtZAuHA"),
   (0x10500, "aELBASAN LETTER ApBEpCEqHEpDEpNDEpDHEpEIqpFEpGEqJEpHEpIpJEpKEpLEqLEpMEpNEqAqJEpOpPE
pQEpREqREpSEqHEpTEqHEpUpVEpXEpYpZEqHEpGHErAMMApKHE"),
   (0x10530, "aCAUCASIAN ALBANIAN LETTER ALTαBETαGIMαDATαEBαZARLαEYNαZHILαTASαCHAαYOWDαZHAαIRB
αSHAαLANαINYAαXEYNαDYANαCARαJHOXαKARαLYITαHEYTαQAYαAORαCHOYγIβYAYαMAQαQARαNOWCαDZYAYαSHAKαJAYNαON
αTYAYαFAMαDZAYαCHATαPENαGHEYSαRATαSEYKαVEYZαTIWRαSHOYαIWNαCYAWβAYNαYAYDαPIWRαKIW"),
   (0x1056F, "aCAUCASIAN ALBANIAN CITATION MARKaVITHKUQI CAPITAL LETTER AyBBEzEyCEzHEyDEzHEyEIz
yFEyGA"),
   (0x1057C, "aVITHKUQI CAPITAL LETTER HAzHAyIzJEyJEyKAyLAzLAyMEyNEzJEyOyPEyQAyRE"),
   (0x1058C, "aVITHKUQI CAPITAL LETTER SEzHEyTEzHEyUyVEyXE"),
   (0x10594, "aVITHKUQI CAPITAL LETTER YyZE"),
   (0x10597, "aVITHKUQI SMALL LETTER AwBBExEwCExHEwDExHEwEIxwFEwGA"),
   (0x105A3, "aVITHKUQI SMALL LETTER HAxHAwIxJEwJEwKAwLAxLAwMEwNExJEwOwPEwQAwRE"),
   (0x105B3, "aVITHKUQI SMALL LETTER SExHEwTExHEwUwVEwXE"),
   (0x105BB, "aVITHKUQI SMALL LETTER YwZE"),
   (0x10600, "aLINEAR A SIGN AB001s2s3s4s5s6s7s8s9r10s1s3s6s7r20s1tFtMs2tFtMs3tMs4s6s7s8p028B
pB029r30s1s4s7s8s9r40s1s4s5s6s7s8s9r50s1s3s4s5s6s7s8s9r60s1s5s6s7s9r70s3s4s6s7s8s9r80s1s2s5s6s7
p100-102pB118r20p120BpB122s3r31AtBp131CpB164r71r80s8r91p301r2r3r4r5r6r7r8r9AsBsCq10r1r2r3AsBsCr4
r5r6r7r8r9q20r1r2r3r4r5r6r7r8r9q30r1r2r3r4r5r6r7r8r9q40r1r2r3r4r5r6r7r8r9q50r1r2r3r4r5r6r7r8r9q60
r1r2r3r4r5r6r7r8r9q70r1p400-VASr1-VASr2-VASr3-VASr4-VASr5-VASr6-VASr7-VASr8-VASr9-VASq10-VAS
r1-VASr2-VASr3-VASr4-VASr5-VASr6-VASr7-VASr8-VASp501r2r3r4r5r6r8r9q10r1r2r3r5r6q20r1r3r4r5r6r7r8
r9q30r1r2r4r5r6r7r8r9q40r1r2r5r7r8r9q50r1r2r3r4r5r6r7r9q63r4r5r6r8r9q70r1r2r3r4r5r6r7r8r9q80r1r2
r3r4r5r6r7r8r9q91r2r4r5r6r8p600r1r2r3r4r6r8r9q10r1r2r3r4r5r6r7r8r9q20r1r2r3r4r6r7r8r9q34r7r8q40r2
r3r4r5r6r8r9q51r2r3r4r5r6r7r8r9q60r1r2r3r4"),
   (0x10740, "aLINEAR A SIGN A701 Ar2 Br3 Dr4 Er5 Fr6 Hr7 Jr8 Kr9 Ls-2 L2t3 L3t4 L4t6 L6q10 Wr1 X
r2 Yr3 OMEGAr4 ABBr5 BBr7 DDq26 EYYYq32 JE"),
   (0x10760, "aLINEAR A SIGN A800r1r2r3r4r5r6r7"),
   (0x10780, "aMODIFIER LETTER SMALL CAPITAL AArUPERSCRIPT TRIANGULAR COLONγHALF TRIANGULAR COLON
rMALL AEwCAPITAL BwB WITH HOOK"),
   (0x10787, "aMODIFIER LETTER SMALL DZ DIGRAPHη WITH RETROFLEX HOOKνCURLxEZH DIGRAPHx WITH TAIL
δHOOKθ AND TAILwREVERSED EwCLOSED REVERSED OPEN EwFENG DIGRAPHwRAMS HORNwCAPITAL GwG WITH HOOK
wCAPITAL G WITH HOOKwH WITH STROKEwCAPITAL HwHENG WITH HOOKwDOTLESS J WITH STROKE AND HOOK
wLS DIGRAPHxZ DIGRAPHx WITH BELTwCAPITAL L WITH BELTwL WITH RETROFLEX HOOK AND BELTxEZH
α WITH RETROFLEX HOOKwTURNED Yε WITH BELTwO WITH STROKEwCAPITAL OExLOSED OMEGAwQ
wTURNED R WITH LONG LEGσ AND RETROFLEX HOOKwR WITH TAILδFISHHOOKwCAPITAL RwTC DIGRAPH WITH CURL
xS DIGRAPHη WITH RETROFLEX HOOKxESH DIGRAPHx WITH RETROFLEX HOOKwV WITH RIGHT HOOK"),
   (0x107B2, "aMODIFIER LETTER SMALL CAPITAL YqGLOTTAL STOP WITH STROKE
qREVERSED GLOTTAL STOP WITH STROKEqBILABIAL CLICKqDENTAL CLICKqLATERAL CLICKqALVEOLAR CLICK
qRETROFLEX CLICK WITH RETROFLEX HOOKqSMALL S WITH CURL"),
   (0x10800, "aCYPRIOT SYLLABLE ArErIrOrUrJA"),
   (0x10808, "aCYPRIOT SYLLABLE JO"),
   (0x1080A, "aCYPRIOT SYLLABLE KAsEsIsOsUrLAsEsIsOsUrMAsEsIsOsUrNAsEsIsOsUrPAsEsIsOsUrRAsEsIsOsU
rSAsEsIsOsUrTAsEsIsOsUrWAsEsIsO"),
   (0x10837, "aCYPRIOT SYLLABLE XAsE"),
   (0x1083C, "aCYPRIOT SYLLABLE ZA"),
   (0x1083F, "aCYPRIOT SYLLABLE ZOaIMPERIAL ARAMAIC LETTER ALEPHyBETHyGIMELyDALETHyHEyWAWyZAYIN
yHETHyTETHyYODHyKAPHyLAMEDHyMEMyNUNySAMEKHyAYINyPEySADHEyQOPHyRESHySHINyTAW"),
   (0x10857, "aIMPERIAL ARAMAIC SECTION SIGNrNUMBER ONEyTWOzHREEzENzWENTYyONE HUNDREDγTHOUSAND
yTEN THOUSANDaPALMYRENE LETTER ALEPHrBETHrGIMELrDALETHrHErWAWrZAYINrHETHrTETHrYODHrKAPHrLAMEDH
rMEMrFINAL NUNrNUNrSAMEKHrAYINrPErSADHErQOPHrRESHrSHINrTAWmFT-POINTING FLEURON
kRIGHT-POINTING FLEURONkNUMBER ONErTWOsHREErFOURsIVErTENsWENTYaNABATAEAN LETTER FINAL ALEPHrALEPH
rFINAL BETHrBETHrGIMELrDALETHrFINAL HErHErWAWrZAYINrHETHrTETHrFINAL YODHrYODHrFINAL KAPHrKAPH
rFINAL LAMEDHrLAMEDHrFINAL MEMrMEMrFINAL NUNrNUNrSAMEKHrAYINrPErSADHErQOPHrRESHrFINAL SHINrSHIN
rTAW"),
   (0x108A7, "aNABATAEAN NUMBER ONErTWOsHREErFOURkCRUCIFORM NUMBER FOURkNUMBER FIVErTENsWENTY
rONE HUNDRED"),
   (0x108E0, "aHATRAN LETTER ALEPHoBETHoGIMELoDALETH-RESHoHEoWAWoZAYNoHETHoTETHoYODHoKAPHoLAMEDH
oMEMoNUNoSAMEKHoAYNoPEoSADHEoQOPH"),
   (0x108F4, "aHATRAN LETTER SHINoTAW"),
   (0x108FB, "aHATRAN NUMBER ONEoFIVEoTENpWENTYoONE HUNDREDaPHOENICIAN LETTER ALFsBETsGAMLsDELT
sHEsWAUsZAIsHETsTETsYODsKAFsLAMDsMEMsNUNsSEMKsAINsPEsSADEsQOFsROSHsSHINsTAUlNUMBER ONEsTENtWENTY
sONE HUNDREDsTWOtHREE"),
   (0x1091F, "aPHOENICIAN WORD SEPARATORaLYDIAN LETTER AoBoGoDoEoVoIoYoKoLoMoNoOoRoSSoToUoFoQoS
oTToANoENoLYoNNoC"),
   (0x1093F, "aLYDIAN TRIANGULAR MARK"),
   (0x10980, "aMEROITIC HIEROGLYPHIC LETTER AδEδIδOδYAδWAδBAζ-2δPAδMAδNAζ-2εEζ-2δRAζ-2δLAδKHAδHHA
δSAζ-2εEδKAδQAδTAζ-2εEζ-2εOδDAwSYMBOL VIDJθ-2jCURSIVE LETTER AyEyIyOyYAyWAyBAyPAyMAyNAzEyRAyLA
yKHAyHHAySAyARCHAIC SAySEyKAyQAyTAzEzOyDA"),
   (0x109BC, "aMEROITIC CURSIVE FRACTION ELEVEN TWELFTHSαONE HALFrLOGOGRAM RMTαIMNrNUMBER ONEyTWO
zHREEyFOURzIVEySIXzEVENyEIGHTyNINEyTENzWENTYzHIRTYyFORTYzIFTYySIXTYzEVENTY"),
   (0x109D2, "aMEROITIC CURSIVE NUMBER ONE HUNDREDyTWO HUNDREDzHREE HUNDREDyFOUR HUNDRED
zIVE HUNDREDySIX HUNDREDzEVEN HUNDREDyEIGHT HUNDREDyNINE HUNDREDyONE THOUSANDyTWO THOUSAND
zHREE THOUSANDyFOUR THOUSANDzIVE THOUSANDySIX THOUSANDzEVEN THOUSANDyEIGHT THOUSANDyNINE THOUSAND
yTEN THOUSANDzWENTY THOUSANDzHIRTY THOUSANDyFORTY THOUSANDzIFTY THOUSANDySIXTY THOUSAND
zEVENTY THOUSANDyEIGHTY THOUSANDyNINETY THOUSANDyONE HUNDRED THOUSANDyTWO HUNDRED THOUSAND
zHREE HUNDRED THOUSANDyFOUR HUNDRED THOUSANDzIVE HUNDRED THOUSANDySIX HUNDRED THOUSAND
zEVEN HUNDRED THOUSANDyEIGHT HUNDRED THOUSANDyNINE HUNDRED THOUSANDrFRACTION ONE TWELFTH
αTWO TWELFTHSβHREE TWELFTHSαFOUR TWELFTHSβIVE TWELFTHSαSIX TWELFTHSβEVEN TWELFTHSαEIGHT TWELFTHS
αNINE TWELFTHSαTEN TWELFTHSaKHAROSHTHI LETTER AlVOWEL SIGN IwUwVOCALIC R"),
   (0x10A05, "aKHAROSHTHI VOWEL SIGN EwO"),
   (0x10A0C, "aKHAROSHTHI VOWEL LENGTH MARKlSIGN DOUBLE RING BELOWqANUSVARAqVISARGAlLETTER KAtHA
sGAtHA"),
   (0x10A15, "aKHAROSHTHI LETTER CAtHAsJA"),
   (0x10A19, "aKHAROSHTHI LETTER NYAsTTAuHAsDDAuHAsNNAsTAtHAsDAtHAsNAsPAtHAsBAtHAsMAsYAsRAsLAsVA
sSHAtSAtAsZAsHAsKKAsTTTHAvAsVHA"),
   (0x10A38, "aKHAROSHTHI SIGN BAR ABOVEqCAUDAqDOT BELOW"),
   (0x10A3F, "aKHAROSHTHI VIRAMAlDIGIT ONErTWOsHREErFOURlNUMBER TENtWENTYsONE HUNDREDwTHOUSAND
lFRACTION ONE HALF"),
   (0x10A50, "aKHAROSHTHI PUNCTUATION DOTxSMALL CIRCLExCIRCLEyRESCENT BARxMANGALAMxLOTUSxDANDA
yOUBLE DANDAxLINES"),
   (0x10A60, "aOLD SOUTH ARABIAN LETTER HEzLAMEDHzHETHzMEMzQOPHzWAWzSHINzRESHzBETHzTAWzSATzKAPH
zNUNzKHETHzSADHEβMEKHzFEzALEFαYNzDHADHEzGIMELzDALETHzGHAYNzTETHzZAYNzDHALETHzYODHzTHAWβETH
sNUMBER ONEzFIFTYvERIC INDICATOReNORTH ARABIAN LETTER HEHzLAMzHAHzMEEMzQAFzWAWzES-2zREHzBEHzTEH
zES-1zKAFzNOONzKHAHzSADzES-3zFEHzALEFαINzDADzGEEMzDALzGHAINzTAHzZAINzTHALzYEHzTHEHzZAHsNUMBER ONE
zTENαWENTY"),
   (0x10AC0, "aMANICHAEAN LETTER ALEPHsBETHtHETHsGIMELtHIMELsDALETHsHEsWAWlSIGN UDlLETTER ZAYIN
tHAYINsJAYINtHAYINsHETHsTETHsYODHsKAPHsXAPHsKHAPHsLAMEDHsDHAMEDHsTHAMEDHsMEMsNUNsSAMEKHsAYINtAYIN
sPEsFEsSADHEsQOPHsXOPHsQHOPHsRESHsSHINtSHINsTAWlABBREVIATION MARK ABOVEδBELOW"),
   (0x10AEB, "aMANICHAEAN NUMBER ONEsFIVEsTENtWENTYsONE HUNDREDlPUNCTUATION STARxFLEURON
xDOUBLE DOT WITHIN DOTzT WITHIN DOTαxTWO DOTSxLINE FILLER"),
   (0x10B00, "aAVESTAN LETTER AqAqOqAOqNqANqErEpEqEpOqOpIqIpUqUpKEpXEqYEqVEpGEqGEqHEpCEpJEpTEqHE
pDEqHEpTTEpPEpFEpBEqHEpNGErYErVEqEqYEqNEpMEpHMEpYYEqEpVEpREpLEpSEpZEpSHEpZHEpSHYEqSHEpHE"),
   (0x10B39, "aAVESTAN ABBREVIATION MARKaTINY TWO DOTS OVER ONE DOT PUNCTUATION
aSMALL TWO DOTS OVER ONE DOT PUNCTUATIONaLARGE TWO DOTS OVER ONE DOT PUNCTUATION
gONE DOT OVER TWO DOTS PUNCTUATIONgTWO RINGS OVER ONE RING PUNCTUATION
gONE RING OVER TWO RINGS PUNCTUATIONaINSCRIPTIONAL PARTHIAN LETTER ALEPHεBETHεGIMELεDALETHεHEεWAW
εZAYINεHETHεTETHεYODHεKAPHεLAMEDHεMEMεNUNεSAMEKHεAYINεPEεSADHEεQOPHεRESHεSHINεTAW"),
   (0x10B58, "aINSCRIPTIONAL PARTHIAN NUMBER ONEεTWOζHREEεFOURεTENζWENTYεONE HUNDREDιTHOUSAND
qHLAVI LETTER ALEPHδBETHδGIMELδDALETHδHEδWAW-AYIN-RESHδZAYINδHETHδTETHδYODHδKAPHδLAMEDHδMEM-QOPH
δNUNδSAMEKHδPEδSADHEεHINδTAW"),
   (0x10B78, "aINSCRIPTIONAL PAHLAVI NUMBER ONEδTWOεHREEδFOURδTENεWENTYδONE HUNDREDθTHOUSAND
aPSALTER PAHLAVI LETTER ALEPHxBETHxGIMELxDALETHxHExWAW-AYIN-RESHxZAYINxHETHxYODHxKAPHxLAMEDH
xMEM-QOPHxNUNxSAMEKHxPExSADHEyHINxTAW"),
   (0x10B99, "aPSALTER PAHLAVI SECTION MARKqTURNED SECTION MARKqFOUR DOTS WITH CROSSζDOT"),
   (0x10BA9, "aPSALTER PAHLAVI NUMBER ONExTWOyHREExFOURxTENyWENTYxONE HUNDRED"),
   (0x10C00, "aOLD TURKIC LETTER ORKHON AsYENISEI AβEsORKHON IsYENISEI IαEsORKHON OαEsYENISEI OE
sORKHON ABsYENISEI ABsORKHON AEBsYENISEI AEBsORKHON AGsYENISEI AGsORKHON AEGsYENISEI AEG
sORKHON ADsYENISEI ADsORKHON AEDzEZsYENISEI EZsORKHON AYsYENISEI AYsORKHON AEYsYENISEI AEY
sORKHON AEKsYENISEI AEKsORKHON OEKsYENISEI OEKsORKHON ALsYENISEI ALsORKHON AELzELTαMzANαEN
sYENISEI AENsORKHON ENTsYENISEI ENTsORKHON ENCsYENISEI ENCsORKHON ENYsYENISEI ENYαANGsORKHON ENG
sYENISEI AENGsORKHON EPzOPzICzECsYENISEI ECsORKHON AQsYENISEI AQsORKHON IQsYENISEI IQsORKHON OQ
sYENISEI OQsORKHON ARsYENISEI ARsORKHON AERαSαESαSHsYENISEI ASHsORKHON ESHsYENISEI ESHsORKHON AT
sYENISEI ATsORKHON AETsYENISEI AETsORKHON OTzBASH"),
   (0x10C80, "aOLD HUNGARIAN CAPITAL LETTER AεAδEBδAMBδECεNCεCSεDδANDδEδCLOSE EδEEεFεGζYεHδIεIδEJ
εKδAKδUNKδELζYεMεNζYδOεOδNIKOLSBURG OEδRUDIMENTA OEδOEEδEPεMPεRδSHORT ERδESζZεTεNTεTYεCHδUεU
δNIKOLSBURG UEδRUDIMENTA UEδEVεZζSεNT-SHAPED SIGNδUS"),
   (0x10CC0, "aOLD HUNGARIAN SMALL LETTER AγAβEBβAMBβECγNCγCSγDβANDβEβCLOSE EβEEγFγGδYγHβIγIβEJγK
βAKβUNKβELδYγMγNδYβOγOβNIKOLSBURG OEβRUDIMENTA OEβOEEβEPγMPγRβSHORT ERβESδZγTγNTγTYγCHβUγU
βNIKOLSBURG UEβRUDIMENTA UEβEVγZδSγNT-SHAPED SIGNβUS"),
   (0x10CFA, "aOLD HUNGARIAN NUMBER ONEvFIVEvTENvFIFTYvONE HUNDREDzTHOUSAND
aHANIFI ROHINGYA LETTER AxBAxPAxTAyTAxJAxCAxHAxKHAxFAxDAyDAxRAyRAxZAxSAyHAxKAxGAxLAxMAxNAxWA
xKINNA WAxYAxKINNA YAxNGAyYAxVAqVOWEL AwIwUwEwOqMARK SAKINvNA KHONNAqSIGN HARBAHAYvTAHALAxNAxSSI"),
   (0x10D30, "aHANIFI ROHINGYA DIGIT ZEROwONEwTWOxHREEwFOURxIVEwSIXxEVENwEIGHTwNINE"),
   (0x10E60, "aRUMI DIGIT ONElTWOmHREElFOURmIVElSIXmEVENlEIGHTlNINEfNUMBER TENnWENTYnHIRTYmFORTY
nIFTYmSIXTYnEVENTYmEIGHTYmNINETYmONE HUNDREDmTWO HUNDREDnHREE HUNDREDmFOUR HUNDREDnIVE HUNDRED
mSIX HUNDREDnEVEN HUNDREDmEIGHT HUNDREDmNINE HUNDREDfFRACTION ONE HALFsQUARTERsTHIRDoTWO THIRDS"),
   (0x10E80, "aYEZIDI LETTER ELIFoBEoPEpHEoTHEoSEoCIMpHIMqHIMoHHAoXAoDALoZALoRApHAoZAoJAoSINpHIN
pADoDADoTAoZEoEYNoXHEYNoFAoVAq ALTERNATE FORMoQAFoKAFpHAFoGAFoLAMoMIMoNUNoUMoWAWoOWoEWoHAYoYOToET"),
   (0x10EAB, "aYEZIDI COMBINING HAMZA MARKrMADDA MARKhHYPHENATION MARK"),
   (0x10EB0, "aYEZIDI LETTER LAM WITH DOT ABOVEoYOT WITH CIRCUMFLEX ABOVE"),
   (0x10F00, "aOLD SOGDIAN LETTER ALEPHtFINAL ALEPHtBETHtFINAL BETHtGIMELtHEtFINAL HEtWAWtZAYIN
tHETHtYODHtKAPHtLAMEDHtMEMtNUNtFINAL NUNγ WITH VERTICAL TAILtSAMEKHtAYINuLTERNATE AYINtPEtSADHE
tFINAL SADHEε WITH VERTICAL TAILtRESH-AYIN-DALETHtSHINtTAWtFINAL TAWγ WITH VERTICAL TAIL
mNUMBER ONEtTWOuHREEtFOURuIVEtTENuWENTYuHIRTYtONE HUNDREDmFRACTION ONE HALFmLIGATURE AYIN-DALETH"),
   (0x10F30, "aSOGDIAN LETTER ALEPHpBETHpGIMELpHEpWAWpZAYINpHETHpYODHpKAPHpLAMEDHpMEMpNUNpSAMEKH
pAYINpPEpSADHEpRESH-AYINpSHINpTAWpFETHpLESHiINDEPENDENT SHINiCOMBINING DOT BELOWsTWO DOTS BELOW
sDOT ABOVEsTWO DOTS ABOVEsCURVE ABOVEyBELOWsHOOK ABOVExBELOWsLONG HOOK BELOWsRESH BELOW
sSTROKE BELOWiNUMBER ONEpTENqWENTYpONE HUNDREDiPUNCTUATION TWO VERTICAL BARSμ WITH DOTS
uCIRCLE WITH DOTuTWO CIRCLES WITH DOTSuHALF CIRCLE WITH DOT"),
   (0x10F70, "aOLD UYGHUR LETTER ALEPHsBETHsGIMEL-HETHsWAWsZAYINsFINAL HETHsYODHsKAPHsLAMEDHsMEM
sNUNsSAMEKHsPEsSADHEsRESHsSHINsTAWsLESHlCOMBINING DOT ABOVEzBELOWvTWO DOTS ABOVEεBELOW
lPUNCTUATION BARxTWO BARSβDOTSxFOUR DOTS"),
   (0x10FB0, "aCHORASMIAN LETTER ALEPHsSMALL ALEPHsBETHsGIMELsDALETHsHEsWAWsCURLED WAWsZAYINsHETH
sYODHsKAPHsLAMEDHsMEMsNUNsSAMEKHsAYINsPEsRESHsSHINsTAWlNUMBER ONEsTWOtHREEsFOURsTENtWENTY
sONE HUNDRED"),
   (0x10FE0, "aELYMAIC LETTER ALEPHpBETHpGIMELpDALETHpHEpWAWpZAYINpHETHpTETHpYODHpKAPHpLAMEDHpMEM
pNUNpSAMEKHpAYINpPEpSADHEpQOPHpRESHpSHINpTAWjIGATURE ZAYIN-YODH"),
   (0x11000, "aBRAHMI SIGN CANDRABINDUmANUSVARAmVISARGAmJIHVAMULIYAmUPADHMANIYAhLETTER ApAoIpIoU
pUoVOCALIC RxRwLxLoEoAIoOoAUoKApHAoGApHAoNGAoCApHAoJApHAoNYAoTTAqHAoDDAqHAoNNAoTApHAoDApHAoNAoPA
pHAoBApHAoMAoYAoRAoLAoVAoSHApSApAoHAoLLAoOLD TAMIL LLLAyRRAyNNNAhVOWEL SIGN AAsBHATTIPROLU AAsItI
sUtUsVOCALIC RβRαLβLsEsAIsOsAUiIRAMAhDANDAiOUBLE DANDAhPUNCTUATION DOTvUBLE DOTtLINEtCRESCENT BAR
tLOTUS"),
   (0x11052, "aBRAHMI NUMBER ONEoTWOpHREEoFOURpIVEoSIXpEVENoEIGHToNINEoTENpWENTYpHIRTYoFORTYpIFTY
oSIXTYpEVENTYoEIGHTYoNINETYoONE HUNDREDsTHOUSANDhDIGIT ZEROnONEnTWOoHREEnFOURoIVEnSIXoEVENnEIGHT
nNINEhSIGN OLD TAMIL VIRAMAhLETTER OLD TAMIL SHORT EεOhVOWEL SIGN OLD TAMIL SHORT EιO
hLETTER OLD TAMIL LLA"),
   (0x1107F, "aBRAHMI NUMBER JOINERaKAITHI SIGN CANDRABINDUmANUSVARAmVISARGAhLETTER ApAoIpIoUpUoE
oAIoOoAUoKApHAoGApHAoNGAoCApHAoJApHAoNYAoTTAqHAoDDAqDHAqHAoRHAoNNAoTApHAoDApHAoNAoPApHAoBApHAoMA
oYAoRAoLAoVAoSHApSApAoHAhVOWEL SIGN AAsItIsUtUsEsAIsOsAUhSIGN VIRAMAmNUKTAhABBREVIATION SIGN
hENUMERATION SIGNhNUMBER SIGNhSECTION MARKhDOUBLE SECTION MARKiANDAiOUBLE DANDA
hVOWEL SIGN VOCALIC R"),
   (0x110CD, "aKAITHI NUMBER SIGN ABOVE"),
   (0x110D0, "aSORA SOMPENG LETTER SAHuTAHuBAHuCAHuDAHuGAHuMAHuNGAHuLAHuNAHuVAHuPAHuYAHuRAHuHAH
uKAHuJAHuNYAHuAHuEEHuIHuUHuOHuEHuMAE"),
   (0x110F0, "aSORA SOMPENG DIGIT ZEROtONEtTWOuHREEtFOURuIVEtSIXuEVENtEIGHTtNINE"),
   (0x11100, "aCHAKMA SIGN CANDRABINDUmANUSVARAmVISARGAhLETTER AAoIoUoEoKAApHAAoGAApHAAoNGAAoCAA
pHAAoJAApHAAoNYAAoTTAAqHAAoDDAAqHAAoNNAAoTAApHAAoDAApHAAoNAAoPAApHAAoBAApHAAoMAAoYYAApAAoRAAoLAA
oWAAoSAAoHAAhVOWEL SIGN AsItIsUtUsEsAIsOsAUsOIhO MARKhAU MARKhVIRAMAhMAAYYAA"),
   (0x11136, "aCHAKMA DIGIT ZEROnONEnTWOoHREEnFOURoIVEnSIXoEVENnEIGHTnNINEhSECTION MARKhDANDA
iOUBLE DANDAhQUESTION MARKhLETTER LHAAhVOWEL SIGN AAsEIhLETTER VAA"),
   (0x11150, "aMAHAJANI LETTER AqIqUqEqOqKArHAqGArHAqCArHAqJArHAqNYAqTTAsHAqDDAsHAqNNAqTArHAqDA
rHAqNAqPArHAqBArHAqMAqRAqLAqVAqSAqHAqRRAjSIGN NUKTAjABBREVIATION SIGNjSECTION MARKjLIGATURE SHRI"),
   (0x11180, "aSHARADA SIGN CANDRABINDUnANUSVARAnVISARGAiLETTER AqApIqIpUqUpVOCALIC RyRxLyLpEpAI
pOpAUpKAqHApGAqHApNGApCAqHApJAqHApNYApTTArHApDDArHApNNApTAqHApDAqHApNApPAqHApBAqHApMApYApRApLAqLA
pVApSHAqSAqApHAiVOWEL SIGN AAtIuItUuUtVOCALIC RγRβLγLtEtAItOtAUiSIGN VIRAMAnAVAGRAHAnJIHVAMULIYA
nUPADHMANIYAiOMiDANDAjOUBLE DANDAiABBREVIATION SIGNiSEPARATORjANDHI MARKjIGN NUKTA
iVOWEL MODIFIER MARKiEXTRA SHORT VOWEL MARKiSUTRA MARKiVOWEL SIGN PRISHTHAMATRA E
iSIGN INVERTED CANDRABINDUiDIGIT ZEROoONEoTWOpHREEoFOURpIVEoSIXpEVENoEIGHToNINEiEKAMiSIGN SIDDHAM
iHEADSTROKEiCONTINUATION SIGNiSECTION MARK-1v2"),
   (0x111E1, "aSINHALA ARCHAIC DIGIT ONEwTWOxHREEwFOURxIVEwSIXxEVENwEIGHTwNINEqNUMBER TENyWENTY
yHIRTYxFORTYyIFTYxSIXTYyEVENTYxEIGHTYxNINETYxONE HUNDREDβTHOUSAND"),
   (0x11200, "aKHOJKI LETTER ApAoIoUoEoAIoOoAUoKApHAoGApGApHAoNGAoCApHAoJApJA"),
   (0x11213, "aKHOJKI LETTER NYAoTTAqHAoDDAqHAoNNAoTApHAoDApDDApHAoNAoPApHAoBApBApHAoMAoYAoRAoLA
oVAoSAoHAoLLAhVOWEL SIGN AAsItIsUsEsAIsOsAUhSIGN ANUSVARAmVIRAMAmNUKTAmSHADDAhDANDAiOUBLE DANDA
hWORD SEPARATORhSECTION MARKhDOUBLE SECTION MARKhABBREVIATION SIGNhSIGN SUKUN"),
   (0x11280, "aMULTANI LETTER ApIpUpEpKAqHApGA"),
   (0x11288, "aMULTANI LETTER GHA"),
   (0x1128A, "aMULTANI LETTER CAqHApJAqJA"),
   (0x1128F, "aMULTANI LETTER NYApTTArHApDDArDArHApNNApTAqHApDAqHApNApPAqHApBA"),
   (0x1129F, "aMULTANI LETTER BHApMApYApRApLApVApSApHApRRAqHAiSECTION MARK"),
   (0x112B0, "aKHUDAWADI LETTER AsArIsIrUsUrErAIrOrAUrKAsHArGAsGAsHArNGArCAsHArJAsJAsHArNYArTTA
tHArDDAtDArRRArDDHArNNArTAsHArDAsHArNArPAsHArBAsBAsHArMArYArRArLArVArSHAsArHAkSIGN ANUSVARA
kVOWEL SIGN AAvIwIvUwUvEvAIvOvAUkSIGN NUKTApVIRAMA"),
   (0x112F0, "aKHUDAWADI DIGIT ZEROqONEqTWOrHREEqFOURrIVEqSIXrEVENqEIGHTqNINE"),
   (0x11300, "aGRANTHA SIGN COMBINING ANUSVARA ABOVEoANDRABINDUnANUSVARAnVISARGA"),
   (0x11305, "aGRANTHA LETTER AqApIqIpUqUpVOCALIC RxL"),
   (0x1130F, "aGRANTHA LETTER EEpAI"),
   (0x11313, "aGRANTHA LETTER OOpAUpKAqHApGAqHApNGApCAqHApJAqHApNYApTTArHApDDArHApNNApTAqHApDAqHA
pNA"),
   (0x1132A, "aGRANTHA LETTER PAqHApBAqHApMApYApRA"),
   (0x11332, "aGRANTHA LETTER LAqLA"),
   (0x11335, "aGRANTHA LETTER VApSHAqSAqApHA"),
   (0x1133B, "aCOMBINING BINDU BELOWaGRANTHA SIGN NUKTAnAVAGRAHAiVOWEL SIGN AAtIuItUuUtVOCALIC R
γR"),
   (0x11347, "aGRANTHA VOWEL SIGN EEtAI"),
   (0x1134B, "aGRANTHA VOWEL SIGN OOtAUiSIGN VIRAMA"),
   (0x11350, "aGRANTHA OM"),
   (0x11357, "aGRANTHA AU LENGTH MARK"),
   (0x1135D, "aGRANTHA SIGN PLUTAiLETTER VEDIC ANUSVARAvDOUBLE ANUSVARAqOCALIC RRxLL
iVOWEL SIGN VOCALIC LγL"),
   (0x11366, "aCOMBINING GRANTHA DIGIT ZEROyONEyTWOzHREEyFOURzIVEySIX"),
   (0x11370, "aCOMBINING GRANTHA LETTER AzKAzNAzVIzPA"),
   (0x11400, "aNEWA LETTER AnAmInImUnUmVOCALIC RvRuLvLmEmAImOmAUmKAnHAmGAnHAmNGAoHAmCAnHAmJAnHA
mNYAoHAmTTAoHAmDDAoHAmNNAmTAnHAmDAnHAmNAnHAmPAnHAmBAnHAmMAnHAmYAmRAnHAmLAnHAmWAmSHAnSAnAmHA
fVOWEL SIGN AAqIrIqUrUqVOCALIC RzRyLzLqEqAIqOqAUfSIGN VIRAMAkCANDRABINDUkANUSVARAkVISARGAkNUKTA
kAVAGRAHAkFINAL ANUSVARAfOMfSIDDHIfDANDAgOUBLE DANDAfCOMMAfGAP FILLERfABBREVIATION SIGN
fDIGIT ZEROlONElTWOmHREElFOURmIVElSIXmEVENlEIGHTlNINEgOUBLE COMMAfPLACEHOLDER MARK"),
   (0x1145D, "aNEWA INSERTION SIGNfSANDHI MARKfLETTER VEDIC ANUSVARAfSIGN JIHVAMULIYAkUPADHMANIYA"),
   (0x11480, "aTIRHUTA ANJIiLETTER AqApIqIpUqUpVOCALIC RyRxLyLpEpAIpOpAUpKAqHApGAqHApNGApCAqHApJA
qHApNYApTTArHApDDArHApNNApTAqHApDAqHApNApPAqHApBAqHApMApYApRApLApVApSHAqSAqApHAiVOWEL SIGN AAtIuI
tUuUtVOCALIC RγRβLγLtEtSHORT EtAItOtSHORT OtAUiSIGN CANDRABINDUnANUSVARAnVISARGApRAMAnNUKTA
nAVAGRAHAiGVANGiABBREVIATION SIGNiOM"),
   (0x114D0, "aTIRHUTA DIGIT ZEROoONEoTWOpHREEoFOURpIVEoSIXpEVENoEIGHToNINE"),
   (0x11580, "aSIDDHAM LETTER AqApIqIpUqUpVOCALIC RyRxLyLpEpAIpOpAUpKAqHApGAqHApNGApCAqHApJAqHA
pNYApTTArHApDDArHApNNApTAqHApDAqHApNApPAqHApBAqHApMApYApRApLApVApSHAqSAqApHAiVOWEL SIGN AAtIuItU
uUtVOCALIC RγR"),
   (0x115B8, "aSIDDHAM VOWEL SIGN EtAItOtAUiSIGN CANDRABINDUnANUSVARAnVISARGApRAMAnNUKTAnSIDDHAM
iDANDAjOUBLE DANDAiSEPARATOR DOTsBARiREPETITION MARK-1y2y3iEND OF TEXT MARK
iSECTION MARK WITH TRIDENT AND U-SHAPED ORNAMENTSνDOTTED CRESCENTSαRAYS AND DOTTED CRESCENTS
ρDOUBLE CRESCENTSρTRIPLE CRESCENTSvDOUBLE RINGη WITH RAYSvWITH DOUBLE CRESCENTSαTRIPLE CRESCENTS
αQUADRUPLE CRESCENTSαSEPTUPLE CRESCENTSαCIRCLES AND RAYSνTWO ENCLOSURESνFOUR ENCLOSURES
iLETTER THREE-CIRCLE ALTERNATE IqWO-CIRCLE ALTERNATE IμIpALTERNATE UiVOWEL SIGN ALTERNATE UεU"),
   (0x11600, "aMODI LETTER AnAmInImUnUmVOCALIC RvRuLvLmEmAImOmAUmKAnHAmGAnHAmNGAmCAnHAmJAnHAmNYA
mTTAoHAmDDAoHAmNNAmTAnHAmDAnHAmNAmPAnHAmBAnHAmMAmYAmRAmLAmVAmSHAnSAnAmHAmLLAfVOWEL SIGN AAqIrIqU
rUqVOCALIC RzRyLzLqEqAIqOqAUfSIGN ANUSVARAkVISARGAmRAMAkARDHACANDRAfDANDAgOUBLE DANDA
fABBREVIATION SIGNfSIGN HUVA"),
   (0x11650, "aMODI DIGIT ZEROlONElTWOmHREElFOURmIVElSIXmEVENlEIGHTlNINE"),
   (0x11660, "aMONGOLIAN BIRGA WITH ORNAMENTkROTATED BIRGAkDOUBLE BIRGA WITH ORNAMENT
kTRIPLE BIRGA WITH ORNAMENTkBIRGA WITH DOUBLE ORNAMENTkROTATED BIRGA WITH ORNAMENT
δDOUBLE ORNAMENTkINVERTED BIRGAy WITH DOUBLE ORNAMENTkSWIRL BIRGAv WITH ORNAMENTβDOUBLE ORNAMENT
kTURNED SWIRL BIRGA WITH DOUBLE ORNAMENT"),
   (0x11680, "aTAKRI LETTER AoAnIoInUoUnEnAInOnAUnKAoHAnGAoHAnNGAnCAoHAnJAoHAnNYAnTTApHAnDDApHA
nNNAnTAoHAnDAoHAnNAnPAoHAnBAoHAnMAnYAnRAnLAnVAnSHAoAnHAnRRAgSIGN ANUSVARAlVISARGAgVOWEL SIGN AArI
sIrUsUrErAIrOrAUgSIGN VIRAMAlNUKTAgLETTER ARCHAIC KHAgABBREVIATION SIGN"),
   (0x116C0, "aTAKRI DIGIT ZEROmONEmTWOnHREEmFOURnIVEmSIXnEVENmEIGHTmNINE"),
   (0x11700, "aAHOM LETTER KAnHAmNGAnAmTAmALTERNATE TAmPAnHAmBAmMAmJAmCHAmTHAmRAmLAmSAmNYAmHAmA
mDAnHAmGAmALTERNATE GAmGHAmBHAmJHAmALTERNATE BA"),
   (0x1171D, "aAHOM CONSONANT SIGN MEDIAL LAβRAβLIGATING RAfVOWEL SIGN ArAqIrIqUrUqEqAWqOqAIrM
fSIGN KILLER"),
   (0x11730, "aAHOM DIGIT ZEROlONElTWOmHREElFOURmIVElSIXmEVENlEIGHTlNINEfNUMBER TENnWENTY
fSIGN SMALL SECTIONlECTIONkRULAIgYMBOL VIfLETTER CAmTTAoHAmDDAoHAmNNAmLLA"),
   (0x11800, "aDOGRA LETTER AoAnIoInUoUnEnAInOnAUnKAoHAnGAoHAnNGAnCAoHAnJAoHAnNYAnTTApHAnDDApHA
nNNAnTAoHAnDAoHAnNAnPAoHAnBAoHAnMAnYAnRAnLAnVAnSHAoSAoAnHAnRRAgVOWEL SIGN AArIsIrUsUrVOCALIC RαR
rErAIrOrAUgSIGN ANUSVARAlVISARGAnRAMAlNUKTAgABBREVIATION SIGN"),
   (0x118A0, "aWARANG CITI CAPITAL LETTER NGAAβAβWIβYUγAγOβIIβUUβEβOβANGβGAβKOβENYβYUJβUCβENNβODD
βTTEβNUNGβDAβATγMβBUβPUβHIYOγOLOδRRγARβSSUUγIIβVIYOmSMALL LETTER NGAAzAzWIzYUαAαOzIIzUUzEzOzANG
zGAzKOzENYzYUJzUCzENNzODDzTTEzNUNGzDAzATαMzBUzPUzHIYOαOLOβRRαARzSSUUαIIzVIYOmDIGIT ZEROsONEsTWO
tHREEsFOURtIVEsSIXtEVENsEIGHTsNINEmNUMBER TENuWENTYuHIRTYtFORTYuIFTYtSIXTYuEVENTYtEIGHTYtNINETY"),
   (0x118FF, "aWARANG CITI OMaDIVES AKURU LETTER AuAtIuItUuUtE"),
   (0x11909, "aDIVES AKURU LETTER O"),
   (0x1190C, "aDIVES AKURU LETTER KAuHAtGAuHAtNGAtCAuHAtJA"),
   (0x11915, "aDIVES AKURU LETTER NYAtTTA"),
   (0x11918, "aDIVES AKURU LETTER DDAvHAtNNAtTAuHAtDAuHAtNAtPAuHAtBAuHAtMAtYAuYAtRAtLAtVAtSHAuSA
uAtHAtLLAtZAmVOWEL SIGN AAxIyIxUyUxE"),
   (0x11937, "aDIVES AKURU VOWEL SIGN AIxO"),
   (0x1193B, "aDIVES AKURU SIGN ANUSVARArCANDRABINDUrHALANTAmVIRAMAmPREFIXED NASAL SIGNmMEDIAL YA
mINITIAL RAmMEDIAL RAmSIGN NUKTAmDOUBLE DANDAmGAP FILLERmEND OF TEXT MARK"),
   (0x11950, "aDIVES AKURU DIGIT ZEROsONEsTWOtHREEsFOURtIVEsSIXtEVENsEIGHTsNINE"),
   (0x119A0, "aNANDINAGARI LETTER AuAtIuItUuUtVOCALIC RγR"),
   (0x119AA, "aNANDINAGARI LETTER EtAItOtAUtKAuHAtGAuHAtNGAtCAuHAtJAuHAtNYAtTTAvHAtDDAvHAtNNAtTA
uHAtDAuHAtNAtPAuHAtBAuHAtMAtYAtRAtLAtVAtSHAuSAuAtHAtLLAtRRAmVOWEL SIGN AAxIyIxUyUxVOCALIC RηR"),
   (0x119DA, "aNANDINAGARI VOWEL SIGN ExAIxOxAUmSIGN ANUSVARArVISARGAtRAMArAVAGRAHArSIDDHAM
mHEADSTROKEmVOWEL SIGN PRISHTHAMATRA E"),
   (0x11A00, "aZANABAZAR SQUARE LETTER ArVOWEL SIGN IγUEδγEγOEδγAIδUγREVERSED IxLENGTH MARK
rLETTER KAzHAyGAzHAyNGAyCAzHAyJAyNYAyTTAαHAyDDAαHAyNNAyTAzHAyDAzHAyNAyPAzHAyBAzHAyMAyTSAαHAyDZA
αHAyZHAzAy-AyYAyRAyLAyVAySHAzSAzAyHAyKSSArFINAL CONSONANT MARKrSIGN VIRAMAwCANDRABINDU
θ WITH ORNAMENTγ WITH ORNAMENTwANUSVARAwVISARGArCLUSTER-INITIAL LETTER RAzFINAL LETTER YAνRAνLA
νVArINITIAL HEAD MARKrCLOSING HEAD MARKrMARK TSHEGwSHADwDOUBLE SHADwLONG TSHEG
rINITIAL DOUBLE-LINED HEAD MARKrCLOSING DOUBLE-LINED HEAD MARKrSUBJOINER"),
   (0x11A50, "aSOYOMBO LETTER AiVOWEL SIGN ItUEutEtOuEtAIuUtVOCALIC RβLoLENGTH MARKiLETTER KAqHA
pGAqHApNGApCAqHApJAqHApNYApTTArHApDDArHApNNApTAqHApDAqHApNApPAqHApBAqHApMApTSArHApDZApZHAqAp-ApYA
pRApLApVApSHAqSAqApHApKSSAiSIGN JIHVAMULIYAnUPADHMANIYAiCLUSTER-INITIAL LETTER RAζLAζSHAηA
iFINAL CONSONANT SIGN GδKδNGδDδNδBδMδRδLδSHεδ-AiSIGN ANUSVARAnVISARGAiGEMINATION MARKiSUBJOINER
iMARK TSHEGnSHADnDOUBLE SHADnPLUTAiHEAD MARK WITH MOON AND SUN AND TRIPLE FLAMEοFLAMEκ
iTERMINAL MARK-1w2"),
   (0x11AB0, "aCANADIAN SYLLABICS NATTILIK HIεIδOεOδAεAγSHRIηIζOηOζAηAtSPEvIvOvA
aPAU CIN HAU LETTER PAtKAtLAtMAtDAtZAtVAtNGAtHAtGAtKHAtSAtBAtCAtTAuHAtNAtPHAtRAtFAtCHAtAtEtItOtU
uAtIAtFINAL PzKzTzMzNzLzWzNGzYmRISING TONE LONGxmSANDHI GLOTTAL STOPmRISING TONE LONG FINALyFINAL
mSANDHI GLOTTAL STOP FINALtTONE LONGxx LONG FINALyFINALmMID-LEVEL TONEmGLOTTAL STOP VARIANT
mMID-LEVEL TONE LONG FINALβFINALmLOW-FALLING TONE LONGγmGLOTTAL STOPmLOW-FALLING TONE LONG FINAL
δFINALmGLOTTAL STOP FINAL"),
   (0x11C00, "aBHAIKSUKI LETTER AsArIsIrUsUrVOCALIC RαRzL"),
   (0x11C0A, "aBHAIKSUKI LETTER ErAIrOrAUrKAsHArGAsHArNGArCAsHArJAsHArNYArTTAtHArDDAtHArNNArTAsHA
rDAsHArNArPAsHArBAsHArMArYArRArLArVArSHAsSAsArHAkVOWEL SIGN AAvIwIvUwUvVOCALIC RεRδL"),
   (0x11C38, "aBHAIKSUKI VOWEL SIGN EvAIvOvAUkSIGN CANDRABINDUpANUSVARApVISARGArRAMApAVAGRAHA
kDANDAlOUBLE DANDAkWORD SEPARATORkGAP FILLER-1v2"),
   (0x11C50, "aBHAIKSUKI DIGIT ZEROqONEqTWOrHREEqFOURrIVEqSIXrEVENqEIGHTqNINEkNUMBER ONErTWOsHREE
rFOURsIVErSIXsEVENrEIGHTrNINErTENsWENTYsHIRTYrFORTYsIFTYrSIXTYsEVENTYrEIGHTYrNINETY
kHUNDREDS UNIT MARK"),
   (0x11C70, "aMARCHEN HEAD MARKiMARK SHADiLETTER KAqHApGApNGApCAqHApJApNYApTAqHApDApNApPAqHApBA
pMApTSArHApDZApWApZHAqAp-ApYApRApLApSHAqApHApA"),
   (0x11C92, "aMARCHEN SUBJOINED LETTER KAαHAzGAzNGAzCAαHAzJAzNYAzTAαHAzDAzNAzPAαHAzBAzMAzTSAβHA
zDZAzWAzZHAαA"),
   (0x11CA9, "aMARCHEN SUBJOINED LETTER YAzRAzLAzSHAαAzHAzAiVOWEL SIGN AAtItUtEtOiSIGN ANUSVARA
nCANDRABINDU"),
   (0x11D00, "aMASARAM GONDI LETTER AwAvIwIvUwUvE"),
   (0x11D08, "aMASARAM GONDI LETTER AIvO"),
   (0x11D0B, "aMASARAM GONDI LETTER AUvKAwHAvGAwHAvNGAvCAwHAvJAwHAvNYAvTTAxHAvDDAxHAvNNAvTAwHAvDA
wHAvNAvPAwHAvBAwHAvMAvYAvRAvLAvVAvSHAwSAwAvHAvLLAvKSSAvJNYAvTRAoVOWEL SIGN AAzIαIzUαUzVOCALIC R"),
   (0x11D3A, "aMASARAM GONDI VOWEL SIGN E"),
   (0x11D3C, "aMASARAM GONDI VOWEL SIGN AIzO"),
   (0x11D3F, "aMASARAM GONDI VOWEL SIGN AUoSIGN ANUSVARAtVISARGAtNUKTAtCANDRAtHALANTAoVIRAMA
oREPHApA-KARA"),
   (0x11D50, "aMASARAM GONDI DIGIT ZEROuONEuTWOvHREEuFOURvIVEuSIXvEVENuEIGHTuNINE"),
   (0x11D60, "aGUNJALA GONDI LETTER AwAvIwIvUwU"),
   (0x11D67, "aGUNJALA GONDI LETTER EEvAI"),
   (0x11D6A, "aGUNJALA GONDI LETTER OOvAUvYAvVAvBAwHAvMAvKAwHAvTAwHAvLAvGAwHAvDAwHAvNAvCAwHAvTTA
xHAvLLAvJAwHAvDDAxHAvNGAvPAwHAvHAvRAvSAoVOWEL SIGN AAzIαIzUαU"),
   (0x11D90, "aGUNJALA GONDI VOWEL SIGN EEzAI"),
   (0x11D93, "aGUNJALA GONDI VOWEL SIGN OOzAUoSIGN ANUSVARAtVISARGAoVIRAMAoOM"),
   (0x11DA0, "aGUNJALA GONDI DIGIT ZEROuONEuTWOvHREEuFOURvIVEuSIXvEVENuEIGHTuNINE"),
   (0x11EE0, "aMAKASAR LETTER KApGApNGApPApBApMApTApDApNApCApJApNYApYApRApLApVApSApAiANGKA
iVOWEL SIGN ItUtEtOiPASSIMBANGiEND OF SECTION"),
   (0x11FB0, "aLISU LETTER YHA"),
   (0x11FC0, "aTAMIL FRACTION ONE THREE-HUNDRED-AND-TWENTIETHtONE-HUNDRED-AND-SIXTIETHtEIGHTIETH
tSIXTY-FOURTHtFORTIETHtTHIRTY-SECONDpTHREE EIGHTIETHSvSIXTY-FOURTHSpONE TWENTIETHtSIXTEENTH-1δ2
tTENTHtEIGHTHpTHREE TWENTIETHSvSIXTEENTHSpONE FIFTHtQUARTERtHALF-1y2pTHREE QUARTERS
pDOWNSCALING FACTOR KIIZHgSIGN NELlCEVITUlAAZHAAKKUlUZHAKKUlMUUVUZHAKKUlKURUNIlPATHAKKUlMUKKURUNI
lKAACUlPANAMmONlVARAAKANlPAARAMlKUZHIlVELIgWET CULTIVATION SIGNgDRY CULTIVATION SIGNgLAND SIGN
gSALT PAN SIGNgTRADITIONAL CREDIT SIGNsNUMBER SIGNgCURRENT SIGNgAND ODD SIGNgSPENT SIGN
gTOTAL SIGNgIN POSSESSION SIGNgSTARTING FROM SIGNhIGN MUTHALIYAlVAKAIYARAA"),
   (0x11FFF, "aTAMIL PUNCTUATION END OF TEXTaCUNEIFORM SIGN Aq TIMES AxBADxGAN2 TENUxHAxIGI
xLAGAR GUNUxMUSHxSAGq2qBr TIMES ASH2yDUN3 GUNUyGALαN2 TENUyHAyIGI GUNUzMINyLAGABySHESH
yU PLUS U PLUS UsGUNUr2s TIMES BALAGzGAN2 TENUzME PLUS ENzSHA3zTAK4qDqKr TIMES ERIN2
ySHITA PLUS GISHqLr TIMES ALyDIM2yGISHyHAyKAD3zIySHEyUSHrANrEPHqMARt TIMES SHEqNr OVER AN
sTHREE TIMESsPLUS NAGA OPPOSING AN PLUS NAGAγSQUAREDrSHEqPINqRADt TIMES KURrKABqSAL2rHs ZIDA TENU
tKABA TENUtOVER ASH TUG2 OVER TUG2 TUG2 OVER TUG2 PAPγOVER ASHλ CROSSING ASH OVER ASH OVER ASHs2
sGABpBArDrG3rHAR2rLs OVER BALsAGrRsA2qIr TIMES AyGARyIGI GUNUqUr OVER BU ABαUNsCROSSING BUrLUG
u OVER BULUGrRs2pDArGs KISIM5 TIMES A PLUS MASHθMARηBALAGθIηGAι PLUS MASHθIιR2θUDηHAηIRι PLUS LU
ηKAKηLAθUι PLUS MASH2ιMηNEηPAP PLUS PAPηSIηTAK4ηU2 PLUS GIR2θSHrMrRsA3t4qIrBrMs TIMES SHEs2rN
s KASKAL U GUNU DISHrSHqUr OVER DUsGUNUsSHESHIGrBs TIMES ESH2s2rGsUDrHrNs3t GUNUy GUNUs4rR2pE
q TIMES PAPrOVER E NUN OVER NUNq2r TIMES A PLUS HA PLUS DAyGARyMIySALzHEyUqDINqGIRqLqN
r TIMES GAN2γ TENUyMEsCROSSING ENsOPPOSING ENsSQUAREDqRENrIN2qSH2qZENt TIMES Aβ PLUS LAL
λ TIMES LALβNαBADαDUN3 GUNUκ GUNUαHAγ GUNUαIGI GUNUαKASKALη SQUAREDβU3αLAγL TIMES LALβIβUαU2βDpGA
r GUNUr2s TIMES A PLUS DA PLUS HAηHAηIGIαB2 TENU PLUS TABαNαSHγ2 PLUS GALzBADβR PLUS RAαUR
γ PLUS RAzDAαIβM TIMES SHEαUBzELβ PLUS LAαNβ TIMES GAN2 TENUzGAN2 TENUβRαIβ4γ PLUS AβR2 PLUS SU
zHA PLUS LU PLUS ESH2βLγ PLUS LAαI PLUS LIαUB2zIGI GUNUαSH PLUS HU PLUS ASHzKAKβSKALαIDγ PLUS LAL
αU3 PLUS ANzLAzME PLUS ENαIzNUNγ OVER NUNzPAzSALβRαHEγ PLUS TURβIDαUMzTAK4zUαDβ PLUS DUtOVER GA2
rBAt CROSSING GABArDs OVER GAD GAR OVER GARrLs GAD OVER GAD GAR OVER GARsAMrMrNs2t TENUuOVER GAN2
uCROSSING GAN2rRs3rSHANqESHTINw TIMES KURqIr TIMES EyUsCROSSING GIr4s OVER GI4tCROSSING GI4rDIM
rR2t GUNUs3t TIMES A PLUS IGIαGAN2 TENUαIGIαLU PLUS IGIαPArSALsHt CROSSING GISHuTIMES BADαTAK4
vENUqUr CROSSING GUr2s TIMES KAKγ TIMES IGI GUNUzNUNzSAL PLUS TUG2tGUNUrDs TIMES A PLUS KURzKUR
tOVER GUD LUGALrLrMs TIMES SHErRs7sUNtSHpHAr TENUsGUNUrLqIr TIMES ASHβ2yBADyDISHyGADyKINyNUNySHE
yUqUrB2t TIMES ANαHALαKASKALαLISHαUDrL2pIq AqBqDIMt OVER IDIM BURεSQUAREDqGrIs DIBtRI
tOVER IGI SHIR OVER SHIR UD OVER UDtGUNUqLr TIMES GAN2 TENUr2qMr TIMES TAK4sCROSSING IM
sOPPOSING IMsSQUAREDrINqNqRqSHpKAr TIMES AzDα PLUS KU3zSH2yBADαLAGαRzIyERIN2zSH2yGAαLαN2 TENUαR
β PLUS SHA3 PLUS AzIαR2αSH PLUS SARδCROSSING GISHzUαR7yIGIzMyKAKzIαDyLIzUyMEα PLUS DUηGIηTEzI
α PLUS NUNUZyNEzUNyPIyRUySAαRzHAαEαIDαUzIGzUHURyTARyUz2zDzMUM TIMES PAzSHyZIr2s CROSSING KA2rBrD2
s3s4s5t OVER KAD5rKs TIMES IGI GUNUrLs TIMES BADtCROSSING KALrM2s4rSKAL
v LAGAB TIMES U OVER LAGAB TIMES UwOVER KASKAL LAGAB TIMES U OVER LAGAB TIMES UqESH2qIr TIMES BAD
yUzDrDrNrSALsHsIM5v OVER KISIM5qUr OVER HI TIMES ASH2 KU OVER HI TIMES ASH2r3r4s VARIANT FORMr7rL
s GUNUrNrRs OPPOSING KURrSHU2qWU318pLArGABu TIMES Aγ PLUS DA PLUS HAιGARιLALγLγNγSH ZIDA TENUβBAD
γIβDARβENβGAδRγUDε PLUS GUDβHAδLγI TIMES NUNβIGI GUNUγMδ PLUS HAκLUβKIδNγU3δLε PLUS HI PLUS A
βLAGABγISHγUδLβMEδ PLUS ENγUSHβNEβSHE PLUS SUMδITA PLUS GISH PLUS ERIN2ςTENUδU2ζ PLUS SHU2γUMβTAG
δK4γE PLUS A PLUS SU PLUS NAβUγ PLUS AιU PLUS Uγ2 PLUS ASHγDγSHvSQUAREDtRu TIMES SHEε PLUS SUM
vGUNUz OVER LAGAR GUNU SHErHSHUrLs TIMES LALrMs TIMES KURγ PLUS RUqIrLrMMU2rSHqUr TIMES BADr2
s TIMES ALzBADzESH2δ TENUzGAN2 TENUzHI TIMES BADzIMzKAD2γ3δ PLUS ASHαIzLA PLUS ASHβGABzME PLUS EN
zNEαUzSI PLUS ASHβK2 PLUS BUzTUG2uENUtCROSSING LU2tOPPOSING LU2tSQUAREDuHESHIGr3rGALu OVER LUGAL
wPPOSING LUGALvSHESHIGrHrLrMs OVER LUMβ GAR OVER GARpMAr TIMES TAK4sGUNUr2rHrRrSHt2qErSqIrNqU
r OVER MUrGs GUNUrNSUBrRGU2rSHt TIMES AαKURαZAuOVER MUSHδ TIMES A PLUS NAuCROSSING MUSHt3
u TIMES Aγ PLUS DIβDIvGUNUpNAr2rGAt INVERTEDuTIMES SHU TENUuOPPOSING NAGAtRrM NUTILLUss2qE
r TIMES AyUDsSHESHIGqIr TIMES Er2rMs TIMES GAN2 TENUβR PLUS GAN2 TENUrNDA2v TIMES ANδSHζ PLUS ASH
γGUDγME PLUS GAN2 TENUγNEδUNγSHEζ PLUS A ANνSHο PLUS ASHγU2 PLUS ASHδSHrSAGqUr11rN
s LAGAR TIMES GARζMASHζSALι OVER NUN LAGAR TIMES SALζUSHtTENUtOVER NUNtCROSSING NUN
ζ LAGAR OVER LAGARsUZu AB2 TIMES ASHGABζBIζDUGζGUDζIGI GUNUζKAD3ζLAζNEζSILA3ζU2vKISIM5 TIMES BI
λ UpPArDrNrPqESH2qIr TIMES AzByBIzUyEyIzByUz2sCROSSING PIrRIGu TIMES KALβUDβZAvOPPOSING PIRIGpRA
rBqIqUpSArG NUTILLUss TIMES AzDUβBzHAzKAKαURzLUMzMIzNUNzSALαHIDzTABzU2αBαMαRαSHtOVER SAGtGUNUrL
s LAGAB TIMES ASH2rNGA2rRqHAs3t TIMES AαBADαGISHαNEαSHU2αTURαUβ PLUS As6sB6sR2rEs HU
tOVER SHE GAD OVER GAD GAR OVER GARγTAB OVER TAB GAR OVER GARsG9sNsSHu2uLAMrIDt TIMES AαIMsM
t TIMES AαBALβULUGαDINαGARαIGIδ GUNUαKUSHU2αLULαMUGαSALsNIGsRt TENUuOVER SHIR BUR OVER BURsTArU
s OVER INVERTED SHUs2sBURqIr GUNUrGs4t OVER SIG4 SHU2rK2rLA3qUr OVER SUrDs2rHURrMsASHrRs9pTA
r ASTERISKsTIMES HIyMIsGUNUrBs OVER TAB NI OVER NI DISH OVER DISHtSQUAREDrGs TIMES BIzGUDzSHEβU
zTUG2zUDrK4rRqEr GUNUqIr TENUrLrRs TIMES TAK4tOVER TIRβ GAD OVER GAD GAR OVER GARqUrG2rKrMrR
s OVER TUR ZA OVER ZApUq GUDrU UrOVER U PA OVER PA GAR OVER GARySUR OVER SUR
yU REVERSED OVER U REVERSEDq2qBqDr KUSHU2sTIMES BADyMIyU PLUS U PLUS Uξ GUNUsGUNUsSHESHIG
z TIMES BADrUGqMr TIMES LAGAByME PLUS DAySHA3yUrBINrUMt TIMES KASKALαPAqNr GUNUqRr CROSSING UR
sSHESHIGr2s TIMES A PLUS HAηNAαLzHAzNUNzU2β PLUS ASHθBIr4rIs3rUs TIMES AαSHGABzBARzDUNzGAβL
βN2 TENUβRαUzHAzIGIαMαSHzKIzLUMzMINzPAzSHEαIG4zTUzU PLUS GUDαDαRUDAsDAu TIMES UqSHs TIMES AzKUβR
zTAK4sXs2sUMXqTUKIqZ3s TIMES KASKALrUpZAr TENUsSQUARED TIMES KURrGrMXqE2qIr OVER ZIr3rB
s KABA TENUrGrZ2qUr5s TIMES ArBURrMpKAP ELAMITEpAB TIMES NUNr2 TIMES AqMAR TIMES KUG
pDAG KISIM5 TIMES U2 PLUS MASHs3qISH PLUS SHUqUB TIMES SHEpEZEN TIMES GUDαSHE
pGA2 TIMES AN PLUS KAK PLUS AαSH2qE22qIGpHUSHpKA TIMES ANSHEzSH3yGISHzUDyHI TIMES ASH2yLUMyPA
ySHULyTUyUR2pLAGAB TIMES GIqU2 SHESHIG TIMES BADtTIMES ESH2 PLUS LALzSHUpMESHqUSH3 TIMES ZApNA4
qINs9sDA2 TIMES BALγGIqU11 ROTATED NINETY DEGREESpPESH2 ASTERISKqIR2pSAG TIMES IGI GUNUpTI2
pUM TIMES MEq U"),
   (0x12400, "aCUNEIFORM NUMERIC SIGN TWO ASHyHREE ASHxFOUR ASHyIVE ASHxSIX ASHyEVEN ASH
xEIGHT ASHxNINE ASHxTHREE DISHxFOUR DISHyIVE DISHxSIX DISHyEVEN DISHxEIGHT DISHxNINE DISHxFOUR U
yIVE UxSIX UyEVEN UxEIGHT UxNINE UxONE GESH2xTWO GESH2yHREE GESH2xFOUR GESH2yIVE GESH2xSIX GESH2
yEVEN GESH2xEIGHT GESH2xNINE GESH2xONE GESHUxTWO GESHUyHREE GESHUxFOUR GESHUyIVE GESHUxTWO SHAR2
yHREE SHAR2ι VARIANT FORMxFOUR SHAR2yIVE SHAR2xSIX SHAR2yEVEN SHAR2xEIGHT SHAR2xNINE SHAR2
xONE SHARUxTWO SHARUyHREE SHARUι VARIANT FORMxFOUR SHARUyIVE SHARUxSHAR2 TIMES GAL PLUS DISHσMIN
xONE BURUxTWO BURUyHREE BURUθ VARIANT FORMxFOUR BURUyIVE BURUxTHREE VARIANT FORM ESH16τ21
xFOUR VARIANT FORM LIMMUυ4υ AφBxSIX VARIANT FORM ASH9yEVEN VARIANT FORM IMIN3υ AφB
xEIGHT VARIANT FORM USSUυ3xNINE VARIANT FORM ILIMMUφ3φ4φ AxTWO ASH TENUyHREE ASH TENU
xFOUR ASH TENUyIVE ASH TENUxSIX ASH TENUxONE BAN2xTWO BAN2yHREE BAN2xFOUR BAN2η VARIANT FORM
yIVE BAN2η VARIANT FORMxNIGIDAMINδESHxONE ESHE3xTWO ESHE3xONE THIRD DISHxTWO THIRDS DISH
xFIVE SIXTHS DISHxONE THIRD VARIANT FORM AxTWO THIRDS VARIANT FORM AxONE EIGHTH ASHβQUARTER ASH
yLD ASSYRIAN ONE SIXTHοQUARTERyNE QUARTER GURβHALF GURxELAMITE ONE THIRDζTWO THIRDSζFORTYηIFTY
xFOUR U VARIANT FORMyIVE U VARIANT FORMxSIX U VARIANT FORMyEVEN U VARIANT FORM
xEIGHT U VARIANT FORMxNINE U VARIANT FORM"),
   (0x12470, "aCUNEIFORM PUNCTUATION SIGN OLD ASSYRIAN WORD DIVIDERβVERTICAL COLONβDIAGONAL COLON
λTRICOLONλQUADCOLON"),
   (0x12480, "aCUNEIFORM SIGN AB TIMES NUN TENUySHU2qD TIMES ESH2pBAD TIMES DISH TENU
rHAR2 TIMES AB2γNIγZAqU OVER BU TIMES NA2pDA TIMES TAK4rG TIMES KURqIM TIMES IGIzU U Us2 TIMES UD
qUG TIMES ANSHEαSHγ AT LEFTzDINαUNzERIN2zGAαIβR2 GUNUβSHzHAαIzIGI GUNUzKASKALαURβSHU2
ζ PLUS KASKALzLAK-020βMγ TIMES KURαUH PLUS GISHzMASHαESαIzNIzPIzSHEαI GUNUpE2 TIMES KURyPAP
qRIN2 XqSH2 CROSSING ESH2qZEN SHESHIG TIMES ASHιHIιIGI GUNUιLAλLιMEλSιSUuTIMES SU
pGA2 TIMES BAHAR2zDIM GUNUαUG TIMES IGI GUNUκKASKALzERENzGAβR PLUS DIιNEzHA PLUS A
zKUSHU2 PLUS KASKALzLAMγ TIMES KURαUHzMUSHzNEβ PLUS E2θGIzSHIMzZIZ2rBA ROTATED NINETY DEGREES
qESHTIN TIMES UqISH TIMES GISH CROSSING GISHqU2 TIMES IGI GUNUrD PLUS GISH TIMES TAK4
pHA TENU GUNUqI TIMES ASH OVER HI TIMES ASHpKA TIMES BUyKAyU U UzRpLAGAB TIMES ZU OVER ZUrK-003
u21v5u30u50v1u62u79 OVER LAK-079 GUNUu80v1 OVER LAK-081u92t130u42t210v9u20v5v8u38u65v6t343v7v8u83
v4u90t441v9w TIMES GUδIGIδPAP PLUS LU3νPAP PLUS LU3δU2 PLUS BAu50v7u70u83u90v2v3v5t550t608u17
w TIMES ASHδBADδDUN3 GUNU GUNUδKU3δLAδTARεEδU2εDεRUDAu36u48w TIMES DUBδGAδIGIη GUNUδNI
δPAP PLUS PAP PLUS LU3δSHESH PLUS KIδUDεRUDAt724u49qU2 GUNU TIMES ASHtTIMES DISHzHALzPAP
γ PLUS PAP PLUS LU3zTAK4pMI PLUS ZA7qUSH OVER MUSH TIMES GAλKAKpNINDA2 TIMES DIM GUNUγGISHδULγHI
γKESH2γLAK-050γMASHγPAP PLUS PAPγUδ PLUS UδRUDApSAG GUNU TIMES HAtTIMES ENzSHE AT LEFTzTAK4
qHA6 TENUrE OVER SHEtPLUS HUB2yNAM2ySARrU2 PLUS DUG TIMES NIzE2 TIMES ANqI TIMES TAK4
pTAK4 PLUS SAGqUM TIMES GAN2 TENUzTHREE DISHpUR2 INVERTEDtTIMES UDrU TIMES DARA3zLAK-668αU3pZA7
qU OVER ZU PLUS SARr5 TIMES THREE DISH TENU"),
   (0x12F90, "aCYPRO-MINOAN SIGN CM001w2w4w5w6w7w8w9v10w1w2xBw3w5w7w9v21w3w4w5w6w7w8w9v30w3w4w5w6
w7w8w9v40w1w4w6w7w9v50w1w2w3w4w5w6w8w9v60w1w2w3w4w6w7w8w9v70w1w2w3w4w5xBw6w8w9v80w1w2w3w4w5w6w7w8
w9v90w1w2w4w5w6w7w8w9u100w1w2w3w4w5w7w8w9v10w2w4u301w2"),
   (0x13000, "aEGYPTIAN HIEROGLYPH A001x2x3x4x5yAx6yAyBx7x8x9w10x1x2x3x4yAx5x6x7yAx8x9w20x1x2x3x4
x5x6x7x8x9w30x1x2yAx3x4x5x6x7x8x9w40yAx1x2yAx3yAx4x5yAx6x7x8x9w50x1x2x3x4x5x6x7x8x9w60x1x2x3x4x5
x6x7x8x9w70uB001x2x3x4x5yAx6x7x8x9uC001x2yAyByCx3x4x5x6x7x8x9w10yAx1x2x3x4x5x6x7x8x9w20x1x2x3x4
uD001x2x3x4x5x6x7x8yAx9w10x1x2x3x4x5x6x7x8x9w20x1x2x3x4x5x6x7yAx8x9w30x1yAx2x3x4yAx5x6x7x8x9w40x1
x2x3x4x5x6yAx7x8yAx9w50yAyByCyDyEyFyGyHyIx1x2yAx3x4yAx5x6x7x8x9w60x1x2x3x4x5x6x7yAyByCyDyEyFyGyH
uE001x2x3x4x5x6x7x8yAx9yAw10x1x2x3x4x5x6yAx7yAx8x9w20yAx1x2x3x4x5x6x7x8yAx9w30x1x2x3x4yAx6x7x8
uF001yAx2x3x4x5x6x7x8x9w10x1x2x3yAx4x5x6x7x8x9w20x1yAx2x3x4x5x6x7x8x9w30x1yAx2x3x4x5x6x7yAx8yAx9
w40x1x2x3x4x5yAx6yAx7yAx8x9w50x1yAyByCx2x3uG001x2x3x4x5x6yAx7yAyBx8x9w10x1yAx2x3x4x5x6x7x8x9w20yA
x1x2x3x4x5x6yAx7x8x9w30x1x2x3x4x5x6yAx7yAx8x9w40x1x2x3yAx4x5yAx6x7x8x9w50x1x2x3x4uH001x2x3x4x5x6
yAx7x8uI001x2x3x4x5yAx6x7x8x9yAw10yAx1yAx2x3x4x5uK001x2x3x4x5x6x7x8uL001x2yAx3x4x5x6yAx7x8uM001yA
yBx2x3yAx4x5x6x7x8x9w10yAx1x2yAyByCyDyEyFyGyHx3x4x5yAx6yAx7yAx8x9w20x1x2yAx3x4yAx5x6x7x8yAx9w30x1
yAx2x3yAyBx4x5x6x7x8x9w40yAx1x2x3x4uN001x2x3x4x5x6x7x8x9w10x1x2x3x4x5x6x7x8yAyBx9w20x1x2x3x4x5yA
x6x7x8x9w30x1x2x3yAx4yAx5yAx6x7yAx8x9w40x1x2vL001y2y3y4y5zAy6y7y8y9x10y1y2y3y4y5y6y7zAy8y9x20
vU001y2y3y4y5y6y7y8y9x10zAy1zAy2y3y4y5y6y7y8zAy9x20y1y2zAuO001yAx2x3x4x5yAx6yAyByCyDyEyFx7x8x9w10
yAyByCx1x2x3x4x5x6x7x8x9yAw20yAx1x2x3x4yAx5yAx6x7x8x9yAw30yAx1x2x3yAx4x5x6yAyByCyDx7x8x9w40x1x2x3
x4x5x6x7x8x9w50yAyBx1uP001yAx2x3yAx4x5x6x7x8x9w10x1uQ001x2x3x4x5x6x7uR001x2yAx3yAyBx4x5x6x7x8x9
w10yAx1x2x3x4x5x6yAx7x8x9w20x1x2x3x4x5x6x7x8x9uS001x2yAx3x4x5x6yAx7x8x9w10x1x2x3x4yAyBx5x6x7yAx8
x9w20x1x2x3x4x5x6yAyBx7x8x9w30x1x2x3x4x5yAx6x7x8x9w40x1x2x3x4x5x6uT001x2x3yAx4x5x6x7yAx8yAx9yAw10
x1yAx2x3x4x5x6yAx7x8x9w20x1x2x3x4x5x6x7x8x9w30x1x2yAx3yAx4x5x6uU001x2x3x4x5x6yAyBx7x8x9w10x1x2x3
x4x5x6x7x8x9w20x1x2x3yAx4x5x6x7x8x9yAw30x1x2yAx3x4x5x6x7x8x9w40x1x2uV001yAyByCyDyEyFyGyHyIx2yAx3
x4x5x6x7yAyBx8x9w10x1yAyByCx2yAyBx3x4x5x6x7x8x9w20yAyByCyDyEyFyGyHyIyJyKyLx1x2x3yAx4x5x6x7x8yAx9
yAw30yAx1yAx2x3yAx4x5x6x7yAx8x9w40yAuW001x2x3yAx4x5x6x7x8x9yAw10yAx1x2x3x4yAx5x6x7yAx8yAx9w20x1x2
x3x4yAx5uX001x2x3x4yAyBx5x6yAx7x8yAuY001yAx2x3x4x5x6x7x8uZ001x2yAyByCyDx3yAyBx4yAx5yAx6x7x8x9w10
x1x2x3x4x5yAyByCyDyEyFyGyHyIx6yAyByCyDyEyFyGyHuAA001y2y3y4y5y6y7zAzBy8y9x10y1y2y3y4y5y6y7y8y9x20
y1y2y3y4y5y6y7y8y9x30y1y2"),
   (0x13430, "aEGYPTIAN HIEROGLYPH VERTICAL JOINERuHORIZONTAL JOINERuINSERT AT TOP START
εBOTTOM STARTεTOP ENDεBOTTOM ENDuOVERLAY MIDDLEuBEGIN SEGMENTuEND SEGMENT"),
   (0x14400, "aANATOLIAN HIEROGLYPH A001y2y3y4y5y6y7y8y9x10zAy1y2y3y4y5y6y7y8y9x20y1y2y3y4y5y6zA
y7y8y9x30y1y2y3y4y5y6y7y8y9zAx40y1zAy2y3y4y5zAy6zAzBy7y8y9x50y1y2y3y4y5y6y7y8y9x60y1y2y3y4y5y6zA
zBzCy7y8y9x70y1y2y3y4y5y6y7y8y9x80y1y2y3y4y5y6y7y8y9x90y1y2y3y4y5y6y7zAy8zAy9w100zAy1zAy2zAy3y4zA
zBzCy5zAzBy6y7zAzBzCy8y9x10zAzBy1y2y3y4y5zAy6y7y8y9x20y1y2y3y4y5zAy6y7y8y9x30y1y2y3y4y5zAy6y7y8y9
x40y1y2y3y4y5y6y7y8y9x50y1y2y3y4y5y6y7y8y9x60y1y2y3y4y5y6y7y8y9x70y1y2y3y4y5y6y7y8y9x80y1y2y3y4y5
y6y7y8y9x90y1y2y3y4y5y6y7y8y9w200y1y2zAzBy3y4y5y6y7zAy8y9zAx10y1y2y3y4y5zAy6zAy7y8y9x20y1y2y3y4y5
y6y7zAy8y9x30y1y2y3y4y5y6y7y8y9x40y1y2y3y4y5y6y7y8y9x50y1y2y3y4y5y6y7y8y9x60y1y2y3y4y5y6y7zAy8y9
x70y1y2y3y4y5y6y7y8y9x80y1y2y3y4y5y6y7y8y9zAx90y1y2y3y4zAy5y6y7y8y9zAw300y1y2y3y4y5y6y7y8y9zAx10
y1y2y3y4y5y6y7y8y9x20y1y2y3y4y5y6y7y8y9zAx30y1y2AzBzCy3y4y5y6zAzBzCy7y8y9x40y1y2y3y4y5y6y7y8y9x50
y1y2y3y4y5y6y7y8y9zAx60y1y2y3y4zAy5y6y7y8zAy9x70y1zAy2y3y4y5y6y7y8y9x80y1zAy2y3 RA OR RIzAy4y5y6
zAy7y8y9x90y1y2y3 EIGHTy4y5y6y7y8y9w400y1y2y3y4y5y6y7y8y9x10 BEGIN LOGOGRAM MARK
zA END LOGOGRAM MARKy1y2y3y4y5y6y7y8y9x20y1y2y3y4y5y6y7y8y9x30y1y2y3y4y5y6y7y8y9x40y1y2y3y4y5y6y7
y8y9x50zAy1y2y3y4y5y6y7zAy8y9x60y1y2y3y4y5y6y7y8y9x70y1y2y3y4y5y6y7y8y9x80y1y2y3y4y5y6y7y8y9x90y1
y2y3y4y5y6y7w501y2y3y4y5y6y7y8y9x10y1y2y3y4y5y6y7y8y9x20y1y2y3y4y5y6y7y8y9x30")]

end DocBraces.Text
