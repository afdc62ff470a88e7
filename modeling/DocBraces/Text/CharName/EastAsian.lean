/-!
# Names of characters: East Asian scripts, African scripts and presentation forms

Rows of names of consecutive code points, each row with its first code point. A name
is written as a mark and a tail: the mark says how many characters it shares with the
name before it.
-/

set_option autoImplicit false

namespace DocBraces.Text

def eastAsianNames : List (Nat × String) :=
  [(0x3000, "aIDEOGRAPHIC SPACEmCOMMAmFULL STOPaDITTO MARKaJAPANESE INDUSTRIAL STANDARD SYMBOL
aIDEOGRAPHIC ITERATION MARKmCLOSING MARKmNUMBER ZEROaLEFT ANGLE BRACKETaRIGHT ANGLE BRACKET
aLEFT DOUBLE ANGLE BRACKETaRIGHT DOUBLE ANGLE BRACKETaLEFT CORNER BRACKETaRIGHT CORNER BRACKET
aLEFT WHITE CORNER BRACKETaRIGHT WHITE CORNER BRACKETaLEFT BLACK LENTICULAR BRACKET
aRIGHT BLACK LENTICULAR BRACKETaPOSTAL MARKaGETA MARKaLEFT TORTOISE SHELL BRACKET
aRIGHT TORTOISE SHELL BRACKETaLEFT WHITE LENTICULAR BRACKETaRIGHT WHITE LENTICULAR BRACKET
aLEFT WHITE TORTOISE SHELL BRACKETaRIGHT WHITE TORTOISE SHELL BRACKETaLEFT WHITE SQUARE BRACKET
aRIGHT WHITE SQUARE BRACKETaWAVE DASHaREVERSED DOUBLE PRIME QUOTATION MARK
aDOUBLE PRIME QUOTATION MARKaLOW DOUBLE PRIME QUOTATION MARKaPOSTAL MARK FACE
aHANGZHOU NUMERAL ONErTWOsHREErFOURsIVErSIXsEVENrEIGHTrNINEaIDEOGRAPHIC LEVEL TONE MARK
mRISING TONE MARKmDEPARTING TONE MARKmENTERING TONE MARKaHANGUL SINGLE DOT TONE MARK
hDOUBLE DOT TONE MARKaWAVY DASHaVERTICAL KANA REPEAT MARKvWITH VOICED SOUND MARKvMARK UPPER HALF
vWITH VOICED SOUND MARK UPPER HALFvMARK LOWER HALFaCIRCLED POSTAL MARK
aIDEOGRAPHIC TELEGRAPH LINE FEED SEPARATOR SYMBOLaHANGZHOU NUMERAL TENsWENTYsHIRTY
aVERTICAL IDEOGRAPHIC ITERATION MARKaMASU MARKaPART ALTERNATION MARK
aIDEOGRAPHIC VARIATION INDICATORmHALF FILL SPACE"),
   (0x3041, "aHIRAGANA LETTER SMALL AqAqSMALL IqIqSMALL UqUqSMALL EqEqSMALL OqOqKAqGAqKIqGIqKUqGU
qKEqGEqKOqGOqSAqZAqSIqZIqSUqZUqSEqZEqSOqZOqTAqDAqTIqDIqSMALL TUqTUqDUqTEqDEqTOqDOqNArIrUrErOqHA
qBAqPAqHIqBIqPIqHUqBUqPUqHEqBEqPEqHOqBOqPOqMArIrUrErOqSMALL YAqYAqSMALL YUqYUqSMALL YOqYOqRArIrU
rErOqSMALL WAqWArIrErOqNqVUqSMALL KAxE"),
   (0x3099, "aCOMBINING KATAKANA-HIRAGANA VOICED SOUND MARKγSEMI-VOICED SOUND MARK
aKATAKANA-HIRAGANA VOICED SOUND MARKsSEMI-VOICED SOUND MARKaHIRAGANA ITERATION MARK
jVOICED ITERATION MARKjDIGRAPH YORIaKATAKANA-HIRAGANA DOUBLE HYPHENi LETTER SMALL AqAqSMALL IqI
qSMALL UqUqSMALL EqEqSMALL OqOqKAqGAqKIqGIqKUqGUqKEqGEqKOqGOqSAqZAqSIqZIqSUqZUqSEqZEqSOqZOqTAqDA
qTIqDIqSMALL TUqTUqDUqTEqDEqTOqDOqNArIrUrErOqHAqBAqPAqHIqBIqPIqHUqBUqPUqHEqBEqPEqHOqBOqPOqMArIrU
rErOqSMALL YAqYAqSMALL YUqYUqSMALL YOqYOqRArIrUrErOqSMALL WAqWArIrErOqNqVUqSMALL KAxEqVArIrErO
jMIDDLE DOTi-HIRAGANA PROLONGED SOUND MARKi ITERATION MARKjVOICED ITERATION MARKjDIGRAPH KOTO"),
   (0x3105, "aBOPOMOFO LETTER BqPqMqFqDqTqNqLqGqKqHqJqQqXqZHqCHqSHqRqZqCqSqAqOqErHqAIqEIqAUqOUqAN
qENqANGqENGrRqIqUqIUqVqNGqGNqIHqO WITH DOT ABOVEqNN"),
   (0x3131, "aHANGUL LETTER KIYEOKoSSANGKIYEOKoKIYEOK-SIOSoNIEUNt-CIEUCuHIEUHoTIKEUToSSANGTIKEUT
oRIEULt-KIYEOKuMIEUMuPIEUPuSIOSuTHIEUTHuPHIEUPHuHIEUHoMIEUMoPIEUPoSSANGPIEUPoPIEUP-SIOSoSIOS
pSANGSIOSoIEUNGoCIEUCoSSANGCIEUCoCHIEUCHoKHIEUKHoTHIEUTHoPHIEUPHoHIEUHoApEoYAqEoEOpoYEOqoOoWAqE
oOEoYOoUoWEOqpIoYUoEUoYIoIhFILLERhLETTER SSANGNIEUNoNIEUN-TIKEUTuSIOSuPANSIOSoRIEUL-KIYEOK-SIOS
uTIKEUTuPIEUP-SIOSvANSIOSuYEORINHIEUHoMIEUM-PIEUPuSIOSuPANSIOSoKAPYEOUNMIEUMoPIEUP-KIYEOKuTIKEUT
uSIOS-KIYEOKzTIKEUTuCIEUCuTHIEUTHoKAPYEOUNPIEUPwSSANGPIEUPoSIOS-KIYEOKtNIEUNtTIKEUTtPIEUPtCIEUC
oPANSIOSoSSANGIEUNGoYESIEUNGw-SIOSxPANSIOSoKAPYEOUNPHIEUPHoSSANGHIEUHoYEORINHIEUHpO-YAtErIpU-YEOt
rIoARAEAtE"),
   (0x3190, "aIDEOGRAPHIC ANNOTATION LINKING MARKxREVERSE MARKxONE MARKxTWO MARKyHREE MARK
xFOUR MARKxTOP MARKxMIDDLE MARKxBOTTOM MARKxFIRST MARKxSECOND MARKxTHIRD MARKxFOURTH MARK
xHEAVEN MARKxEARTH MARKxMAN MARKaBOPOMOFO LETTER BUqZIqJIqGUqEErNNqOOrNNqIRqANNqINNqUNNqIMqNGG
qAINNrUNNrMqOMrNGqINNNjFINAL LETTER PwTwKwHjLETTER GHqLHqZYjFINAL LETTER GjLETTER GWqKWqOEqAH
aCJK STROKE TlWGlXGlBXGlSWlHZZnGmPmZWGlSZWGlHZTnZPmPWGmZWnZZlNlHlSlPlSPlDlHZmGlSZmWZmTmGlPDmZlTN
lSZZmWGlHXWGmZZZGlPGlQ"),
   (0x31F0, "aKATAKANA LETTER SMALL KUwSIxUwTOwNUwHAxIxUxExOwMUwRAxIxUxExO
aPARENTHESIZED HANGUL KIYEOKvNIEUNvTIKEUTvRIEULvMIEUMvPIEUPvSIOSvIEUNGvCIEUCwHIEUCHvKHIEUKH
vTHIEUTHvPHIEUPHvHIEUHvKIYEOK AvNIEUN AvTIKEUT AvRIEUL AvMIEUM AvPIEUP AvSIOS AvIEUNG AvCIEUC A
wHIEUCH AvKHIEUKH AvTHIEUTH AvPHIEUPH AvHIEUH AvCIEUC UoKOREAN CHARACTER OJEONη HU"),
   (0x3220, "aPARENTHESIZED IDEOGRAPH ONEyTWOzHREEyFOURzIVEySIXzEVENyEIGHTyNINEyTENyMOONyFIRE
yWATERzOODyMETALyEARTHySUNzTOCKyHAVEySOCIETYyNAMEySPECIALyFINANCIALyCONGRATULATIONyLABOR
yREPRESENTyCALLySTUDYzUPERVISEyENTERPRISEyRESOURCEyALLIANCEyFESTIVALyRESTySELFyREACH
aCIRCLED IDEOGRAPH QUESTIONsKINDERGARTENsSCHOOLsKOTOiNUMBER TEN ON BLACK SQUARE
qWENTY ON BLACK SQUAREqHIRTY ON BLACK SQUAREpFORTY ON BLACK SQUAREqIFTY ON BLACK SQUARE
pSIXTY ON BLACK SQUAREqEVENTY ON BLACK SQUAREpEIGHTY ON BLACK SQUAREaPARTNERSHIP SIGN
aCIRCLED NUMBER TWENTY ONEwTWOxHREEwFOURxIVEwSIXxEVENwEIGHTwNINEqHIRTYv ONEwTWOxHREEwFOURxIVE
iHANGUL KIYEOKpNIEUNpTIKEUTpRIEULpMIEUMpPIEUPpSIOSpIEUNGpCIEUCqHIEUCHpKHIEUKHpTHIEUTHpPHIEUPH
pHIEUHpKIYEOK ApNIEUN ApTIKEUT ApRIEUL ApMIEUM ApPIEUP ApSIOS ApIEUNG ApCIEUC AqHIEUCH A
pKHIEUKH ApTHIEUTH ApPHIEUPH ApHIEUH AiKOREAN CHARACTER CHAMKOzJUEUIiHANGUL IEUNG U
aKOREAN STANDARD SYMBOLaCIRCLED IDEOGRAPH ONEsTWOtHREEsFOURtIVEsSIXtEVENsEIGHTsNINEsTENsMOONsFIRE
sWATERtOODsMETALsEARTHsSUNtTOCKsHAVEsSOCIETYsNAMEsSPECIALsFINANCIALsCONGRATULATIONsLABORsSECRET
sMALEsFEMALEsSUITABLEsEXCELLENTsPRINTsATTENTIONsITEMsRESTsCOPYuRRECTsHIGHsCENTREsLOWtEFTsRIGHT
sMEDICINEsRELIGIONsSTUDYtUPERVISEsENTERPRISEsRESOURCEsALLIANCEsNIGHTiNUMBER THIRTY SIXxEVENwEIGHT
wNINEpFORTYu ONEvTWOwHREEvFOURwIVEvSIXwEVENvEIGHTvNINEqIFTY
aIDEOGRAPHIC TELEGRAPH SYMBOL FOR JANUARYθFEBRUARYθMARCHθAPRILθMAYθJUNEκLYθAUGUSTθSEPTEMBER
θOCTOBERθNOVEMBERθDECEMBERaSQUARE HGhERGiVaLIMITED LIABILITY SIGNaCIRCLED KATAKANA ArIrUrErOrKAsI
sUsEsOrSAsIsUsEsOrTAsIsUsEsOrNAsIsUsEsOrHAsIsUsEsOrMAsIsUsEsOrYAsUsOrRAsIsUsEsOrWAsIsEsO
aSQUARE ERA NAME REIWAhAPAATOiRUHUAiNPEAiARUhININGUjTIhUONhESUKUUDOiEKAAhONSUiOMUhKAIRIjRATTO
kORIIhGARONjNMAiIGAjNIIhKYURIIhGIRUDAAhKIROlGURAMUlMEETORUlWATTOhGURAMUnTONhKURUZEIROkOONEiEESU
iORUNAjOPOhSAIKURUjNTIIMUiIRINGUiENTIlOhDAASUiESIiORUhTONhNANOiOTTOhHAITUhPAASENTOkTUhBAARERU
hPIASUTORUjKURUkOhBIRUhHUARADDOjIITOhBUSSYERUhHURANiEKUTAARUhPESOjNIHIhHERUTUhPENSUjEZIhBEETA
hPOINTOhBORUTOhHONhPONDOhHOORUkNhMAIKUROkRUjHHAjRUKUjNSYONiIKURONjRIlBAARUiEGAlTONjETORUhYAADOkRU
iUANhRITTORUjRAiUPIIjUBURUiEMUjNTOGENhWATTOaIDEOGRAPHIC TELEGRAPH SYMBOL FOR HOUR ZEROνONEνTWO
ξHREEνFOURξIVEνSIXξEVENνEIGHTνNINEνTENνELEVENνTWELVEξHIRTEENνFOURTEENξIFTEENνSIXTEENξEVENTEEN
νEIGHTEENνNINETEENνTWENTYσ-ONEτTWOυHREEτFOURaSQUARE HPAhDAhAUhBARhOVhPChDMj SQUAREDkCUBEDhIU
hERA NAME HEISEIqSYOUWAqTAISYOUqMEIZIhCORPORATIONhPA AMPShNAhMU AiAhKAiBhMBhGBhCALhKCALhPFhNF
hMU FkGiGhKGhHZhKHZhMHZhGHZhTHZhMU LiLhDLhKLhFMhNMhMU MiMhCMhKMhMM SQUAREDhCM SQUAREDhM SQUARED
hKM SQUAREDhMM CUBEDhCM CUBEDhM CUBEDhKM CUBEDhM OVER Sp SQUAREDhPAhKPAhMPAhGPAhRADk OVER S
r SQUAREDhPShNShMU SiShPVhNVhMU ViVhKVhMV MEGAhPWhNWhMU WiWhKWhMW MEGAhK OHMhM OHMhAMhBQhCCiD
i OVER KGiOhDBhGYhHAiPhINhKKiM CAPITALiThLMiNiOGiXhMB SMALLiILiOLhPHiMiPMiRhSRiVhWBhV OVER M
hA OVER MaIDEOGRAPHIC TELEGRAPH SYMBOL FOR DAY ONEμTWOνHREEμFOURνIVEμSIXνEVENμEIGHTμNINEμTEN
μELEVENμTWELVEνHIRTEENμFOURTEENνIFTEENμSIXTEENνEVENTEENμEIGHTEENμNINETEENμTWENTYς-ONEσTWOτHREE
σFOURτIVEσSIXτEVENσEIGHTσNINEνHIRTYς-ONEaSQUARE GAL"),
   (0x4DC0, "aHEXAGRAM FOR THE CREATIVE HEAVENrRECEPTIVE EARTHnDIFFICULTY AT THE BEGINNING
nYOUTHFUL FOLLYnWAITINGnCONFLICTnTHE ARMYnHOLDING TOGETHERnSMALL TAMINGnTREADINGnPEACEnSTANDSTILL
nFELLOWSHIPnGREAT POSSESSIONnMODESTYnENTHUSIASMnFOLLOWINGnWORK ON THE DECAYEDnAPPROACH
nCONTEMPLATIONnBITING THROUGHnGRACEnSPLITTING APARTnRETURNnINNOCENCEnGREAT TAMINGnMOUTH CORNERS
nGREAT PREPONDERANCEnTHE ABYSMAL WATERrCLINGING FIREnINFLUENCEnDURATIONnRETREATnGREAT POWER
nPROGRESSnDARKENING OF THE LIGHTnTHE FAMILYnOPPOSITIONoBSTRUCTIONnDELIVERANCEpCREASEnINCREASE
nBREAKTHROUGHnCOMING TO MEETnGATHERING TOGETHERnPUSHING UPWARDnOPPRESSIONnTHE WELLnREVOLUTION
nTHE CAULDRONrAROUSING THUNDERrKEEPING STILL MOUNTAINnDEVELOPMENTnTHE MARRYING MAIDENnABUNDANCE
nTHE WANDERERrGENTLE WINDrJOYOUS LAKEnDISPERSIONnLIMITATIONnINNER TRUTHnSMALL PREPONDERANCE
nAFTER COMPLETIONnBEFORE COMPLETION"),
   (0xA000, "aYI SYLLABLE ITnXnnPnEToXooPmATnXnnPmUOXooPmOTnXnnPmEXnmWUmBIToXooPoETpXppPnAToXooP
nUOXppPnOToXooPnEXooPnUToXooPoRXpnYToXooPoRXpmPIToXooPoEXppPnAToXooPnUOXppPnOToXooPnUToXooPoRXp
nYToXooPoRXpmBBITpXppPpETqXqqPoATpXppPoUOXqqPoOTpXppPoEXppPoUTpXppPpRXqoYTpXppPmNBITpXppPpEXqqP
oATpXppPoOTpXppPoUTpXppPpRXqoYTpXppPpRXqmHMITpXppPpEXqqPoATpXppPoUOXqqPoOTpXppPoUTpXppPpRXqoYXppP
pRXqmMIToXooPoEXppPnAToXooPnUOTpXppPnOToXooPnEXonUToXooPoRXpnYToXooPmFIToXooPnAToXooPnOXooPnUToXo
oPoRXpnYToXooPmVIToXooPoETpXppPnAToXooPnOToXooPnEXoPnUToXooPoRXpnYToXooPoRXpmDIToXooPoEXppPnAToXo
oPnUOXpnOToXooPnEXooPnUToXooPoRXpmTIToXooPoEXppPnAToXooPnUOTpXppPnOToXooPnEXooPnUToXooPoRXpmDDIT
pXppPpEXqqPoATpXppPoUOXqqPoOTpXppPoEXppPoUTpXppPpRXqmNDITpXppPpEXqoATpXppPoOTpXppPoEXppPoUTpXppP
pRXqmHNITpXppPpETqXqqPoATpXppPoUOXqoOTpXpPoEXppPoUTmNIToXooPoEXppPnAXooPnUOXppPnOToXooPnEXooPnUT
oXooPoRXpmHLITpXppPpEXqqPoATpXppPoUOXqqPoOXppPoEXppPoUTpXppPpRXqoYTpXppPpRXqmLIToXooPoETpXppPnAT
oXooPnUOTpXppPnOToXooPnEXooPnUToXooPoRXpnYToXooPoRXpmGIToXooPoETpXppPnAToXooPnUOTpXppPnOToXooPnET
oXooPnUToXooPoRXpmKIToXooPoEXppPnAToXooPnUOXppPnOToXooPnEToXooPnUToXooPoRXpmGGITpXppEXqqPoATpXppP
oUOTqXqqPoOTpXppPoETpXppPoUTpXppPpRXqmMGIEXqoATpXppPoUOXqqPoOTpXppPoEXppPoUTpXppPpRXqmHXITpXppP
pETqXqqPoATpXppPoUOTqXqqPoOTpXppPoEXppPmNGIEXqqPoATpXppPoUOTqXqoOTpXppPoEXppPmHIToEXpnAToXooPnUOT
pXppPnOToXooPnEXooPmWAToXooPnUOXppPnOXooPnEXooPmZIToXooPoEXppPnAToXooPnUOXppPnOToXooPnEXooPnUToXo
oPoRXpnYToXooPoRXpmCIToXooPoETpXppPnAToXooPnUOXppPnOToXooPnEXooPnUToXooPoRXpnYToXooPoRXpmZZITpXp
pPpETqXqqPoATpXppPoOXppPoEXppPoUXppPpRXqoYTpXppPpRXqmNZITpXppPpEXqqPoATpXppPoUOXqoOXpPoEXpoUXppP
pRXqoYTpXppPpRXqmSIToXooPoEXppPnAToXooPnUOXppPnOToXooPnEXooPnUToXooPoRXpnYToXooPoRXpnSITpXppPpEXq
qPoATpXppPoOTpXppPoEXppPoUTpXppPoYTpXppPpRXqmZHATpXppPoUOXqqPoOTpXppPoETpXppPoUTpXppPpRXqoYTpXppP
pRXqmCHATpXppPoUOTqXqqPoOTpXppPoETpXppPoUXppPpRXqoYTpXppPpRXqmRRAXpoUOXqoOTpXppPoETpXppPoUTpXppP
pRXqoYTpXppPpRXqmNRATpXppPoOXppPoETpXppPoUTpXppPpRXqoYTpXppPpRXqmSHATpXppPoUOXqqPoOTpXppPoETpXppP
oUTpXppPpRXqoYTpXppPpRXqmRAToXooPnUOXppPnOToXooPnEXooPnUToXooPoRXpnYToXooPoRXpmJIToXooPoETpXppP
nUOTpXppPnOToXooPnUToXooPoRXpnYToXooPoRXpmQIToXooPoETpXppPnUOTpXppPnOToXooPnUToXooPoRXpnYToXooP
oRXpmJJITpXppPpETqXqqPoUOXqqPoOTpXppPoUTpXppPpRXqoYTpXppPmNJITpXppPpETqXqqPoUOXqoOTpXppPoUXppPpRX
qoYTpXppPpRXqnYITpXppPpETqXqqPoUOXqqPoOTpXppPoUTpXppPmXIToXooPoETpXppPnUOXpnOToXooPnYToXooPoRXp
mYIToXooPoETpXppPnUOTpXppPnOToXooPnUToXooPoRXpnYToXooPoRXp"),
   (0xA490, "aYI RADICAL QOTlLIlKITlNYIPlCYPlSSIlGGOPmEPlMIlHXITlLYRlBBUTlMOPlYOlPUTlHXUOlTATlGA
lZUPlCYTlDDURlBURlGGUOlNYOPlTUlOPlJJUTlZOTlPYTlHMOlYITlVURlSHYlVEPlZAlJOlNZUPlJJYlGOTlJJIElWOlDU
lSHURlLIElCYmUOPmIPlHXOPlSHATlZURlSHOPlCHElZZIETlNBIElKE"),
   (0xA4D0, "aLISU LETTER BAmPAnHAmDAmTAnHAmGAmKAnHAmJAmCAnHAmDZAmTSAoHAmMAmNAmLAmSAmZHAnAmNGAmHA
mXAmHHAmFAmWAmSHAmYAmGHAmAnEmEnUmImOmUnEnHmOEmTONE MYA TIrNA POrMYA CYAvBOvNAvJEU
fPUNCTUATION COMMArFULL STOPaVAI SYLLABLE EEpNnHEEnWEEqNnPEEnBHEEoEEnMBEEnKPEEnMGBEEnGBEEnFEEnVEE
nTEEoHEEnDHEEpHEEnLEEnREEnDEEnNDEEnSEEoHEEnZEEoHEEnCEEnJEEnNJEEnYEEnKEEnNGGEEnGEEnMEEnNEEoYEEnIoN
nHIpNnWIpNnPInBHIoInMBInKPInMGBInGBInFInVInTIoHInDHIpHInLInRInDInNDInSIoHInZIoHInCInJInNJInYInKI
nNGGInGInMInNIoYInAoNnNGANnHApNnWApNnPAnBHAoAnMBAnKPAqNnMGBAnGBAnFAnVAnTAoHAnDHApHAnLAnRAnDAnNDA
nSAoHAnZAoHAnCAnJAnNJAnYAnKApNnNGGAnGAnMAnNAoYAnOOpNnHOOnWOOqNnPOOnBHOOoOOnMBOOnKPOOnMGBOOnGBOO
nFOOnVOOnTOOoHOOnDHOOpHOOnLOOnROOnDOOnNDOOnSOOoHOOnZOOoHOOnCOOnJOOnNJOOnYOOnKOOnNGGOOnGOOnMOOnNOO
oYOOnUoNnHUpNnWUpNnPUnBHUoUnMBUnKPUnMGBUnGBUnFUnVUnTUoHUnDHUpHUnLUnRUnDUnNDUnSUoHUnZUoHUnCUnJU
nNJUnYUnKUnNGGUnGUnMUnNUoYUnOoNnNGONnHOpNnWOpNnPOnBHOoOnMBOnKPOnMGBOnGBOqNnFOnVOnTOoHOnDHOpHOnLO
nROnDOnNDOnSOoHOnZOoHOnCOnJOnNJOnYOnKOnNGGOnGOnMOnNOoYOnEoNnNGENnHEpNnWEpNnPEnBHEoEnMBEnKPEqN
nMGBEnGBEqNnFEnVEnTEoHEnDHEpHEnLEnREnDEnNDEnSEoHEnZEoHEnCEnJEnNJEnYEnKEnNGGErNnGEpNnMEnNEoYEoG
nLENGTHENEReCOMMAeFULL STOPeQUESTION MARKeSYLLABLE NDOLE FAtKAtSOOgMBOL FEENGlKEENGlTINGlNIIlBANG
lFAAlTAAlDANGmOONGlKUNGlTONGlDO-OlJONGeDIGIT ZEROkONEkTWOlHREEkFOURlIVEkSIXlEVENkEIGHTkNINE
eSYLLABLE NDOLE MAtDO"),
   (0xA640, "aCYRILLIC CAPITAL LETTER ZEMLYAjSMALL LETTER ZEMLYAjCAPITAL LETTER DZELO
jSMALL LETTER DZELOjCAPITAL LETTER REVERSED DZEjSMALL LETTER REVERSED DZEjCAPITAL LETTER IOTA
jSMALL LETTER IOTAjCAPITAL LETTER DJERVjSMALL LETTER DJERVjCAPITAL LETTER MONOGRAPH UK
jSMALL LETTER MONOGRAPH UKjCAPITAL LETTER BROAD OMEGAjSMALL LETTER BROAD OMEGA
jCAPITAL LETTER NEUTRAL YERjSMALL LETTER NEUTRAL YERjCAPITAL LETTER YERU WITH BACK YER
jSMALL LETTER YERU WITH BACK YERjCAPITAL LETTER IOTIFIED YATjSMALL LETTER IOTIFIED YAT
jCAPITAL LETTER REVERSED YUjSMALL LETTER REVERSED YUjCAPITAL LETTER IOTIFIED A
jSMALL LETTER IOTIFIED AjCAPITAL LETTER CLOSED LITTLE YUSjSMALL LETTER CLOSED LITTLE YUS
jCAPITAL LETTER BLENDED YUSjSMALL LETTER BLENDED YUSjCAPITAL LETTER IOTIFIED CLOSED LITTLE YUS
jSMALL LETTER IOTIFIED CLOSED LITTLE YUSjCAPITAL LETTER YNjSMALL LETTER YN
jCAPITAL LETTER REVERSED TSEjSMALL LETTER REVERSED TSEjCAPITAL LETTER SOFT DE
jSMALL LETTER SOFT DEjCAPITAL LETTER SOFT ELjSMALL LETTER SOFT ELjCAPITAL LETTER SOFT EM
jSMALL LETTER SOFT EMjCAPITAL LETTER MONOCULAR OjSMALL LETTER MONOCULAR O
jCAPITAL LETTER BINOCULAR OjSMALL LETTER BINOCULAR OjCAPITAL LETTER DOUBLE MONOCULAR O
jSMALL LETTER DOUBLE MONOCULAR OjLETTER MULTIOCULAR ObOMBINING CYRILLIC VZMETtTEN MILLIONS SIGN
tHUNDRED MILLIONS SIGNtTHOUSAND MILLIONS SIGNaSLAVONIC ASTERISK
aCOMBINING CYRILLIC LETTER UKRAINIAN IEαIαYIαUαHARD SIGNαYERUαSOFT SIGNαOMEGAtKAVYKAtPAYEROK
bYRILLIC KAVYKAjPAYEROKjCAPITAL LETTER DWEjSMALL LETTER DWEjCAPITAL LETTER DZWEjSMALL LETTER DZWE
jCAPITAL LETTER ZHWEjSMALL LETTER ZHWEjCAPITAL LETTER CCHEjSMALL LETTER CCHEjCAPITAL LETTER DZZE
jSMALL LETTER DZZEjCAPITAL LETTER TE WITH MIDDLE HOOKjSMALL LETTER TE WITH MIDDLE HOOK
jCAPITAL LETTER TWEjSMALL LETTER TWEjCAPITAL LETTER TSWEjSMALL LETTER TSWEjCAPITAL LETTER TSSE
jSMALL LETTER TSSEjCAPITAL LETTER TCHEjSMALL LETTER TCHEjCAPITAL LETTER HWEjSMALL LETTER HWE
jCAPITAL LETTER SHWEjSMALL LETTER SHWEjCAPITAL LETTER DOUBLE OjSMALL LETTER DOUBLE O
jCAPITAL LETTER CROSSED OjSMALL LETTER CROSSED OaMODIFIER LETTER CYRILLIC HARD SIGNzSOFT SIGN
aCOMBINING CYRILLIC LETTER EFαIOTIFIED EaBAMUM LETTER AnKAnUnKUnEEnREEnTAEnOnNYInInLAnPAnRIIpEE
nLEEEEnMEEEEnTAAnNDAAoJAEMnMnSUUnMUnSHIIoIoHEUXoEUXnKYEEoETnNUAEpoJUAEnYOQnSHUnYUQoAnNSHAnKEUX
nPEUXnNJEEoTEEnPUEnWUEnPEEnFEEnRUnLUnMInNInREUXoAEnKENnNGKWAENpGApAnSHOnPUAEnFUoOMnWAnNAnLInPI
nLOQnKOnMBENnRENnMENoAnTInKInMOoBAAnTETnKPAnTENnNTUUnSAMBAnFAAMAEnKOVUUpGHOM
gCOMBINING MARK KOQNDONvTUKWENTISgNJAEMLIgFULL STOPgCOLONiMMAgSEMICOLONgQUESTION MARK"),
   (0xA700, "aMODIFIER LETTER CHINESE TONE YIN PINGεANG PINGεIN SHANGεANG SHANGεIN QUεANG QU
εIN RUεANG RUqEXTRA-HIGH DOTTED TONE BARqHIGH DOTTED TONE BARqMID DOTTED TONE BAR
qLOW DOTTED TONE BARqEXTRA-LOW DOTTED TONE BARwHIGH DOTTED LEFT-STEM TONE BAR
qHIGH DOTTED LEFT-STEM TONE BARqMID DOTTED LEFT-STEM TONE BARqLOW DOTTED LEFT-STEM TONE BAR
qEXTRA-LOW DOTTED LEFT-STEM TONE BARwHIGH LEFT-STEM TONE BARqHIGH LEFT-STEM TONE BAR
qMID LEFT-STEM TONE BARqLOW LEFT-STEM TONE BARqEXTRA-LOW LEFT-STEM TONE BARqDOT VERTICAL BAR
uSLASHuHORIZONTAL BARqLOWER RIGHT CORNER ANGLEqRAISED UP ARROWxDOWN ARROWxEXCLAMATION MARK
xINVERTED EXCLAMATION MARKqLOW INVERTED EXCLAMATION MARKqSTRESS AND HIGH TONEβLOW TONE
aLATIN CAPITAL LETTER EGYPTOLOGICAL ALEFgSMALL LETTER EGYPTOLOGICAL ALEF
gCAPITAL LETTER EGYPTOLOGICAL AINgSMALL LETTER EGYPTOLOGICAL AINgCAPITAL LETTER HENG
gSMALL LETTER HENGgCAPITAL LETTER TZgSMALL LETTER TZgCAPITAL LETTER TRESILLO
gSMALL LETTER TRESILLOgCAPITAL LETTER CUATRILLOgSMALL LETTER CUATRILLO
gCAPITAL LETTER CUATRILLO WITH COMMAgSMALL LETTER CUATRILLO WITH COMMAgLETTER SMALL CAPITAL FβS
gCAPITAL LETTER AAgSMALL LETTER AAgCAPITAL LETTER AOgSMALL LETTER AOgCAPITAL LETTER AU
gSMALL LETTER AUgCAPITAL LETTER AVgSMALL LETTER AVgCAPITAL LETTER AV WITH HORIZONTAL BAR
gSMALL LETTER AV WITH HORIZONTAL BARgCAPITAL LETTER AYgSMALL LETTER AY
gCAPITAL LETTER REVERSED C WITH DOTgSMALL LETTER REVERSED C WITH DOTgCAPITAL LETTER K WITH STROKE
gSMALL LETTER K WITH STROKEgCAPITAL LETTER K WITH DIAGONAL STROKE
gSMALL LETTER K WITH DIAGONAL STROKEgCAPITAL LETTER K WITH STROKE AND DIAGONAL STROKE
gSMALL LETTER K WITH STROKE AND DIAGONAL STROKEgCAPITAL LETTER BROKEN LgSMALL LETTER BROKEN L
gCAPITAL LETTER L WITH HIGH STROKEgSMALL LETTER L WITH HIGH STROKE
gCAPITAL LETTER O WITH LONG STROKE OVERLAYgSMALL LETTER O WITH LONG STROKE OVERLAY
gCAPITAL LETTER O WITH LOOPgSMALL LETTER O WITH LOOPgCAPITAL LETTER OOgSMALL LETTER OO
gCAPITAL LETTER P WITH STROKE THROUGH DESCENDERgSMALL LETTER P WITH STROKE THROUGH DESCENDER
gCAPITAL LETTER P WITH FLOURISHgSMALL LETTER P WITH FLOURISHgCAPITAL LETTER P WITH SQUIRREL TAIL
gSMALL LETTER P WITH SQUIRREL TAILgCAPITAL LETTER Q WITH STROKE THROUGH DESCENDER
gSMALL LETTER Q WITH STROKE THROUGH DESCENDERgCAPITAL LETTER Q WITH DIAGONAL STROKE
gSMALL LETTER Q WITH DIAGONAL STROKEgCAPITAL LETTER R ROTUNDAgSMALL LETTER R ROTUNDA
gCAPITAL LETTER RUM ROTUNDAgSMALL LETTER RUM ROTUNDAgCAPITAL LETTER V WITH DIAGONAL STROKE
gSMALL LETTER V WITH DIAGONAL STROKEgCAPITAL LETTER VYgSMALL LETTER VY
gCAPITAL LETTER VISIGOTHIC ZgSMALL LETTER VISIGOTHIC ZgCAPITAL LETTER THORN WITH STROKE
gSMALL LETTER THORN WITH STROKEgCAPITAL LETTER THORN WITH STROKE THROUGH DESCENDER
gSMALL LETTER THORN WITH STROKE THROUGH DESCENDERgCAPITAL LETTER VENDgSMALL LETTER VEND
gCAPITAL LETTER ETgSMALL LETTER ETgCAPITAL LETTER ISgSMALL LETTER ISgCAPITAL LETTER CON
gSMALL LETTER CONaMODIFIER LETTER USaLATIN SMALL LETTER DUMtLUMtMUMtNUMtRUM
gLETTER SMALL CAPITAL RUMgSMALL LETTER TUMtUMgCAPITAL LETTER INSULAR DgSMALL LETTER INSULAR D
gCAPITAL LETTER INSULAR FgSMALL LETTER INSULAR FgCAPITAL LETTER INSULAR GvTURNED INSULAR G
gSMALL LETTER TURNED INSULAR GgCAPITAL LETTER TURNED LgSMALL LETTER TURNED L
gCAPITAL LETTER INSULAR RgSMALL LETTER INSULAR RgCAPITAL LETTER INSULAR SgSMALL LETTER INSULAR S
gCAPITAL LETTER INSULAR TgSMALL LETTER INSULAR TaMODIFIER LETTER LOW CIRCUMFLEX ACCENTqCOLON
qSHORT EQUALS SIGNaLATIN CAPITAL LETTER SALTILLOgSMALL LETTER SALTILLOgCAPITAL LETTER TURNED H
gSMALL LETTER L WITH RETROFLEX HOOK AND BELTgLETTER SINOLOGICAL DOT
gCAPITAL LETTER N WITH DESCENDERgSMALL LETTER N WITH DESCENDERgCAPITAL LETTER C WITH BAR
gSMALL LETTER C WITH BARαPALATAL HOOKtH WITH PALATAL HOOKgCAPITAL LETTER B WITH FLOURISH
gSMALL LETTER B WITH FLOURISHgCAPITAL LETTER F WITH STROKEgSMALL LETTER F WITH STROKE
gCAPITAL LETTER VOLAPUK AEgSMALL LETTER VOLAPUK AEgCAPITAL LETTER VOLAPUK OE
gSMALL LETTER VOLAPUK OEgCAPITAL LETTER VOLAPUK UEgSMALL LETTER VOLAPUK UE
gCAPITAL LETTER G WITH OBLIQUE STROKEgSMALL LETTER G WITH OBLIQUE STROKE
gCAPITAL LETTER K WITH OBLIQUE STROKEgSMALL LETTER K WITH OBLIQUE STROKE
gCAPITAL LETTER N WITH OBLIQUE STROKEgSMALL LETTER N WITH OBLIQUE STROKE
gCAPITAL LETTER R WITH OBLIQUE STROKEgSMALL LETTER R WITH OBLIQUE STROKE
gCAPITAL LETTER S WITH OBLIQUE STROKEgSMALL LETTER S WITH OBLIQUE STROKE
gCAPITAL LETTER H WITH HOOKvREVERSED OPEN EvSCRIPT GvL WITH BELTvSMALL CAPITAL I
gLETTER SMALL CAPITAL QgCAPITAL LETTER TURNED KγTvJ WITH CROSSED-TAILvCHIvBETAgSMALL LETTER BETA
gCAPITAL LETTER OMEGAgSMALL LETTER OMEGAgCAPITAL LETTER U WITH STROKEgSMALL LETTER U WITH STROKE
gCAPITAL LETTER GLOTTAL AgSMALL LETTER GLOTTAL AgCAPITAL LETTER GLOTTAL IgSMALL LETTER GLOTTAL I
gCAPITAL LETTER GLOTTAL UgSMALL LETTER GLOTTAL UgCAPITAL LETTER OLD POLISH O
gSMALL LETTER OLD POLISH OgCAPITAL LETTER ANGLICANA WgSMALL LETTER ANGLICANA W
gCAPITAL LETTER C WITH PALATAL HOOKvS WITH HOOKvZ WITH PALATAL HOOKvD WITH SHORT STROKE OVERLAY
gSMALL LETTER D WITH SHORT STROKE OVERLAYgCAPITAL LETTER S WITH SHORT STROKE OVERLAY
gSMALL LETTER S WITH SHORT STROKE OVERLAY"),
   (0xA7D0, "aLATIN CAPITAL LETTER CLOSED INSULAR GgSMALL LETTER CLOSED INSULAR G"),
   (0xA7D3, "aLATIN SMALL LETTER DOUBLE THORN"),
   (0xA7D5, "aLATIN SMALL LETTER DOUBLE WYNNgCAPITAL LETTER MIDDLE SCOTS S
gSMALL LETTER MIDDLE SCOTS SgCAPITAL LETTER SIGMOID SgSMALL LETTER SIGMOID S"),
   (0xA7F2, "aMODIFIER LETTER CAPITAL CyFyQaLATIN CAPITAL LETTER REVERSED HALF H
gSMALL LETTER REVERSED HALF HgEPIGRAPHIC LETTER SIDEWAYS IaMODIFIER LETTER CAPITAL H WITH STROKE
qSMALL LIGATURE OEaLATIN LETTER SMALL CAPITAL TURNED MgEPIGRAPHIC LETTER REVERSED FθPyINVERTED M
z LONGAyARCHAIC MaSYLOTI NAGRI LETTER AuInSIGN DVISVARAnLETTER UuEuOnSIGN HASANTAnLETTER KOvHOuGO
vHOnSIGN ANUSVARAnLETTER COvHOuJOvHOuTTOwHOuDDOwHOuTOvHOuDOvHOuNOuPOvHOuBOvHOuMOuROuLOuRROuSOuHO
nVOWEL SIGN AyIyUyEyOOnPOETRY MARK-1z2z3z4nSIGN ALTERNATE HASANTA"),
   (0xA830, "aNORTH INDIC FRACTION ONE QUARTERzHALFvTHREE QUARTERSvONE SIXTEENTHzEIGHTH
vTHREE SIXTEENTHSmQUARTER MARKmPLACEHOLDER MARKmRUPEE MARKmQUANTITY MARK"),
   (0xA840, "aPHAGS-PA LETTER KArHAqGAqNGAqCArHAqJAqNYAqTArHAqDAqNAqPArHAqBAqMAqTSAsHAqDZAqWAqZHA
rAqSMALL AqYAqRAqLAqSHArAqHAqAqIqUqEqOqQAqXAqFAqGGAqEEjSUBJOINED LETTER WAαYAjLETTER TTAsHAqDDA
qNNAqALTERNATE YAqVOICELESS SHAvD HAqASPIRATED FAjSUBJOINED LETTER RAlPERFIXED LETTER RA
jLETTER CANDRABINDUjSINGLE HEAD MARKjDOUBLE HEAD MARKjMARK SHADoDOUBLE SHAD"),
   (0xA880, "aSAURASHTRA SIGN ANUSVARAqVISARGAlLETTER AtAsItIsUtUsVOCALIC RβRαLβLsEtEsAIsOtOsAU
sKAtHAsGAtHAsNGAsCAtHAsJAtHAsNYAsTTAuHAsDDAuHAsNNAsTAtHAsDAtHAsNAsPAtHAsBAtHAsMAsYAsRAsLAsVAsSHA
tSAtAsHAsLLAlCONSONANT SIGN HAARUlVOWEL SIGN AAwIxIwUxUwVOCALIC RζRεLζLwExEwAIwOxOwAUlSIGN VIRAMA
qCANDRABINDU"),
   (0xA8CE, "aSAURASHTRA DANDAmOUBLE DANDAmIGIT ZEROrONErTWOsHREErFOURsIVErSIXsEVENrEIGHTrNINE"),
   (0xA8E0, "aCOMBINING DEVANAGARI DIGIT ZEROβONEβTWOγHREEβFOURγIVEβSIXγEVENβEIGHTβNINEvLETTER A
γUγKAγNAγPAγRAγVIvSIGN AVAGRAHAaDEVANAGARI SIGN SPACING CANDRABINDUqCANDRABINDU VIRAMA
qDOUBLE CANDRABINDU VIRAMAqCANDRABINDU TWOδHREEγAVAGRAHAqPUSHPIKAlGAP FILLERlCARETlHEADSTROKE
lSIGN SIDDHAMlJAIN OMlLETTER AYlVOWEL SIGN AYaKAYAH LI DIGIT ZEROpONEpTWOqHREEpFOURqIVEpSIXqEVEN
pEIGHTpNINEjLETTER KArHAqGAqNGAqSArHAqZAqNYAqTAqHTAqNAqPArHAqMAqDAqBAqRAqYAqLAqWAqTHAqHAqVAqCAqA
qOEqIqOOjVOWEL UEpEpUpEEpOjTONE PLOPHUoCALYAt PLOPHUjSIGN CWIoSHYAaREJANG LETTER KAoGAoNGAoTAoDA
oNAoPAoBAoMAoCAoJAoNYAoSAoRAoLAoYAoWAoHAoMBAoNGGApDApYJAoAhVOWEL SIGN IsUsEsAIsOsAUsEUtA
hCONSONANT SIGN NGxwRwHhVIRAMA"),
   (0xA95F, "aREJANG SECTION MARKaHANGUL CHOSEONG TIKEUT-MIEUMxPIEUPxSIOSxCIEUCqRIEUL-KIYEOK
wSSANGKIYEOKwTIKEUTwSSANGTIKEUTwMIEUMwPIEUPwSSANGPIEUPwKAPYEOUNPIEUPwSIOSwCIEUCwKHIEUKH
qMIEUM-KIYEOKwTIKEUTwSIOSqPIEUP-SIOS-THIEUTHwKHIEUKHwHIEUHqSSANGSIOS-PIEUPqIEUNG-RIEULwHIEUH
qSSANGCIEUC-HIEUHvTHIEUTHqPHIEUPH-HIEUHqHIEUH-SIOSqSSANGYEORINHIEUH"),
   (0xA980, "aJAVANESE SIGN PANYANGGAoCECAKoLAYARoWIGNYANjLETTER AqI KAWIrrIqUqPA CEREKqNGA LELET
z RASWADIqEqAIqOqKAs SASAKtMURDAqGAs MURDAqNGAqCAs MURDAqJAqNYA MURDAqJA MAHAPRANAqNYAqTTA
t MAHAPRANAqDDAt MAHAPRANAqNA MURDAqTAs MURDAqDAs MAHAPRANAqNAqPAs MURDAqBAs MURDAqMAqYAqRA
s AGUNGqLAqWAqSA MURDAuAHAPRANAsqHAjSIGN CECAK TELUjVOWEL SIGN TARUNGvOLONGuWULUy MELIKuSUKU
y MENDUTuTALINGuDIRGA MUREuPEPETjCONSONANT SIGN KERETyPENGKALyCAKRAjPANGKONjLEFT RERENGGAN
jRIGHT RERENGGANjPADA ANDAPoMADYAoLUHURoWINDUoPANGKAToLINGSApUNGSIoADEGs ADEGoPISELEH
jTURNED PADA PISELEH"),
   (0xA9CF, "aJAVANESE PANGRANGKEPjDIGIT ZEROpONEpTWOqHREEpFOURqIVEpSIXqEVENpEIGHTpNINE"),
   (0xA9DE, "aJAVANESE PADA TIRTA TUMETESoISEN-ISENaMYANMAR LETTER SHAN GHAuCHAuJHAuNNAuBHA
iSIGN SHAN SAWiMODIFIER LETTER SHAN REDUPLICATIONiLETTER TAI LAING NYAzFAzGAαHAzJAαHAzDDAβHAzNNA
iTAI LAING DIGIT ZEROyONEyTWOzHREEyFOURzIVEySIXzEVENyEIGHTyNINEiLETTER TAI LAING LLAzDAαHAzBAαHA"),
   (0xAA00, "aCHAM LETTER AmImUmEmAImOmKAnHAmGAnHAmNGUEoAmCHAoHAmJAnHAmNHUEoAoJAmTAnHAmDAnHAmNUE
nAmDDAmPAnPAnHAmBAnHAmMUEnAmBBAmYAmRAmLAmVAmSSAnAmHAfVOWEL SIGN AAqIrIqEIqUqOErqAIrUqUE
fCONSONANT SIGN YAuRAuLAuWA"),
   (0xAA40, "aCHAM LETTER FINAL KsGsNGfCONSONANT SIGN FINAL NGfLETTER FINAL CHsTsNsPsYsRsLsSS
fCONSONANT SIGN FINAL MαH"),
   (0xAA50, "aCHAM DIGIT ZEROlONElTWOmHREElFOURmIVElSIXmEVENlEIGHTlNINE"),
   (0xAA5C, "aCHAM PUNCTUATION SPIRALrDANDAsOUBLE DANDArTRIPLE DANDAaMYANMAR LETTER KHAMTI GAwCA
xHAwJAxHAwNYAwTTAyHAwDDAyHAxHAwNAwSAwHAxHAwFAiMODIFIER LETTER KHAMTI REDUPLICATION
iLETTER KHAMTI XAwZAwRAjOGOGRAM KHAMTI OAYyQNyHMiSYMBOL AITON EXCLAMATIONvONEvTWOiLETTER AITON RA
iSIGN PAO KAREN TONEnTAI LAING TONE-2γ5iLETTER SHWE PALAUNG CHAγSHAaTAI VIET LETTER LOW KO
qHIGH KOqLOW KHOqHIGH KHOqLOW KHHOqHIGH KHHOqLOW GOqHIGH GOqLOW NGOqHIGH NGOqLOW COqHIGH CO
qLOW CHOqHIGH CHOqLOW SOqHIGH SOqLOW NYOqHIGH NYOqLOW DOqHIGH DOqLOW TOqHIGH TOqLOW THOqHIGH THO
qLOW NOqHIGH NOqLOW BOqHIGH BOqLOW POqHIGH POqLOW PHOqHIGH PHOqLOW FOqHIGH FOqLOW MOqHIGH MO
qLOW YOqHIGH YOqLOW ROqHIGH ROqLOW LOqHIGH LOqLOW VOqHIGH VOqLOW HOqHIGH HOqLOW OqHIGH OjMAI KANG
jVOWEL AApIpUEqpEpOjMAI KHITjVOWEL IApUEAqApAUEqYqNqMjTONE MAI EKsNUENGsTHOsSONG"),
   (0xAADB, "aTAI VIET SYMBOL KONqNUENGqSAMqHO HOIqKOI KOIaMEETEI MAYEK LETTER EuOuCHAuNYAuTTAwHA
uDDAwHAuNNAuSHAvSAnVOWEL SIGN IIyUUyAAIzUzAUnCHEIKHANnAHANG KHUDAMoNJInSYLLABLE REPETITION MARK
nWORD REPETITION MARKnVOWEL SIGN VISARGAoIRAMA"),
   (0xAB01, "aETHIOPIC SYLLABLE TTHUvIvAAvEEwvO"),
   (0xAB09, "aETHIOPIC SYLLABLE DDHUvIvAAvEEwvO"),
   (0xAB11, "aETHIOPIC SYLLABLE DZUuIuAAuEEvuO"),
   (0xAB20, "aETHIOPIC SYLLABLE CCHHAwUwIwAAwEExwO"),
   (0xAB28, "aETHIOPIC SYLLABLE BBAuUuIuAAuEEvuO"),
   (0xAB30, "aLATIN SMALL LETTER BARRED ALPHAtA REVERSED-SCHWAtBLACKLETTER EuARRED E
tE WITH FLOURISHtLENIS FtSCRIPT G WITH CROSSED-TAILtL WITH INVERTED LAZY SαDOUBLE MIDDLE TILDE
αMIDDLE RINGtM WITH CROSSED-TAILtN WITH CROSSED-TAILtENG WITH CROSSED-TAILtBLACKLETTER O
η WITH STROKEtOPEN O WITH STROKEtINVERTED OEtTURNED OE WITH STROKEιHORIZONTAL STROKEβ OPEN-O
ι WITH STROKEtSTIRRUP RgLETTER SMALL CAPITAL R WITH RIGHT LEGgSMALL LETTER R WITHOUT HANDLE
tDOUBLE RtR WITH CROSSED-TAILtDOUBLE R WITH CROSSED-TAILtSCRIPT Rβ WITH RINGtBASELINE ESH
tU WITH SHORT RIGHT LEGvBAR WITH SHORT RIGHT LEGuItTURNED UItU WITH LEFT HOOKtCHI
w WITH LOW RIGHT RINGηLEFT SERIFtX WITH LOW RIGHT RINGγNG LEFT LEGξ AND LOW RIGHT RINGοWITH SERIF
tY WITH SHORT RIGHT LEGaMODIFIER BREVE WITH INVERTED BREVEjLETTER SMALL HENG
wL WITH INVERTED LAZY SδMIDDLE TILDEwU WITH LEFT HOOKaLATIN SMALL LETTER SAKHA YATtIOTIFIED E
tOPEN OEtUOtINVERTED ALPHAaGREEK LETTER SMALL CAPITAL OMEGA
aLATIN SMALL LETTER DZ DIGRAPH WITH RETROFLEX HOOKtTS DIGRAPH WITH RETROFLEX HOOK
uURNED R WITH MIDDLE TILDEaMODIFIER LETTER SMALL TURNED WqLEFT TACKqRIGHT TACK"),
   (0xAB70, "aCHEROKEE SMALL LETTER AwEwIwOwUwVwGAwKAwGExIxOxUxVwHAxExIxOxUxVwLAxExIxOxUxVwMAxExI
xOxUwNAwHNAwNAHxExIxOxUxVwQUAyEyIyOyUyVwSAxxExIxOxUxVwDAwTAwDEwTEwDIwTIwDOxUxVxLAwTLAyEyIyOyUyV
xSAyEyIyOyUyVwWAxExIxOxUxVwYAaMEETEI MAYEK LETTER KOKuSAMuLAIuMITuPAuNAuCHILuTILuKHOUuNGOUuTHOU
uWAIuYANGuHUKuUNuIuPHAMuATIYAuGOKuJHAMuRAIuBAuJILuDILuGHOUuDHOUuBHAMuKOK LONSUMuLAI LONSUM
uMIT LONSUMuPA LONSUMuNA LONSUMuTIL LONSUMuNGOU LONSUMuI LONSUMnVOWEL SIGN ONAPyINAPyANAPyYENAP
ySOUNAPyUNAPyCHEINAPyNUNGnCHEIKHEInLUM IYEKnAPUN IYEK"),
   (0xABF0, "aMEETEI MAYEK DIGIT ZEROtONEtTWOuHREEtFOURuIVEtSIXuEVENtEIGHTtNINE"),
   (0xD7B0, "aHANGUL JUNGSEONG O-YEOtO-IrYO-AvEuEOrU-YEOtI-IrYU-AEuOrEU-AuEOvuOrI-YA-OvEuEOvtO-I
tYOuUtIrARAEA-AxE"),
   (0xD7CB, "aHANGUL JONGSEONG NIEUN-RIEULxCHIEUCHrSSANGTIKEUTγ-PIEUPrTIKEUT-PIEUPySIOSγ-KIYEOK
yCIEUCzHIEUCHyTHIEUTHrRIEUL-SSANGKIYEOKxKIYEOK-HIEUHrSSANGRIEUL-KHIEUKHrRIEUL-MIEUM-HIEUH
xPIEUP-TIKEUTδPHIEUPHxYESIEUNGzORINHIEUH-HIEUHrKAPYEOUNRIEULrMIEUM-NIEUNxSSANGNIEUNrSSANGMIEUM
rMIEUM-PIEUP-SIOSxCIEUCrPIEUP-TIKEUTxRIEUL-PHIEUPHxMIEUMrSSANGPIEUPrPIEUP-SIOS-TIKEUTxCIEUC
yHIEUCHrSIOS-MIEUMwKAPYEOUNPIEUPsSANGSIOS-KIYEOKβTIKEUTsIOS-PANSIOSwCIEUCxHIEUCHwTHIEUTHwHIEUH
rPANSIOS-PIEUPzKAPYEOUNPIEUPrYESIEUNG-MIEUMαHIEUHrCIEUC-PIEUPxSSANGPIEUPrSSANGCIEUCrPHIEUPH-SIOS
zTHIEUTH"),
   (0xFB00, "aLATIN SMALL LIGATURE FFwIwLwFIxLvLONG S TvST"),
   (0xFB13, "aARMENIAN SMALL LIGATURE MEN NOWγECHγINIyVEW NOWyMEN XEH"),
   (0xFB1D, "aHEBREW LETTER YOD WITH HIRIQhPOINT JUDEO-SPANISH VARIKA
hLIGATURE YIDDISH YOD YOD PATAHiETTER ALTERNATIVE AYINoWIDE ALEFtDALETtHEtKAFtLAMEDtFINAL MEM
tRESHtTAVoALTERNATIVE PLUS SIGNoSHIN WITH SHIN DOTzIN DOTyDAGESH AND SHIN DOTλIN DOT
oALEF WITH PATAHyQAMATSyMAPIQoBET WITH DAGESHoGIMEL WITH DAGESHoDALET WITH DAGESHoHE WITH MAPIQ
oVAV WITH DAGESHoZAYIN WITH DAGESH"),
   (0xFB38, "aHEBREW LETTER TET WITH DAGESHoYOD WITH DAGESHoFINAL KAF WITH DAGESHoKAF WITH DAGESH
oLAMED WITH DAGESH"),
   (0xFB3E, "aHEBREW LETTER MEM WITH DAGESH"),
   (0xFB40, "aHEBREW LETTER NUN WITH DAGESHoSAMEKH WITH DAGESH"),
   (0xFB43, "aHEBREW LETTER FINAL PE WITH DAGESHoPE WITH DAGESH"),
   (0xFB46, "aHEBREW LETTER TSADI WITH DAGESHoQOF WITH DAGESHoRESH WITH DAGESHoSHIN WITH DAGESH
oTAV WITH DAGESHoVAV WITH HOLAMoBET WITH RAFEoKAF WITH RAFEoPE WITH RAFEiIGATURE ALEF LAMED
aARABIC LETTER ALEF WASLA ISOLATED FORMzFINAL FORMoBEEH ISOLATED FORMtFINAL FORMtINITIAL FORM
tMEDIAL FORMoPEH ISOLATED FORMsFINAL FORMsINITIAL FORMsMEDIAL FORMoBEHEH ISOLATED FORMuFINAL FORM
uINITIAL FORMuMEDIAL FORMoTTEHEH ISOLATED FORMvFINAL FORMvINITIAL FORMvMEDIAL FORM
pEHEH ISOLATED FORMuFINAL FORMuINITIAL FORMuMEDIAL FORMpTEH ISOLATED FORMtFINAL FORMtINITIAL FORM
tMEDIAL FORMoVEH ISOLATED FORMsFINAL FORMsINITIAL FORMsMEDIAL FORMoPEHEH ISOLATED FORMuFINAL FORM
uINITIAL FORMuMEDIAL FORMoDYEH ISOLATED FORMtFINAL FORMtINITIAL FORMtMEDIAL FORM
oNYEH ISOLATED FORMtFINAL FORMtINITIAL FORMtMEDIAL FORMoTCHEH ISOLATED FORMuFINAL FORM
uINITIAL FORMuMEDIAL FORMtEH ISOLATED FORMwFINAL FORMwINITIAL FORMwMEDIAL FORM
oDDAHAL ISOLATED FORMvFINAL FORMpAHAL ISOLATED FORMuFINAL FORMpUL ISOLATED FORMsFINAL FORM
pDAL ISOLATED FORMtFINAL FORMoJEH ISOLATED FORMsFINAL FORMoRREH ISOLATED FORMtFINAL FORM
oKEHEH ISOLATED FORMuFINAL FORMuINITIAL FORMuMEDIAL FORMoGAF ISOLATED FORMsFINAL FORM
sINITIAL FORMsMEDIAL FORMpUEH ISOLATED FORMtFINAL FORMtINITIAL FORMtMEDIAL FORM
oNGOEH ISOLATED FORMuFINAL FORMuINITIAL FORMuMEDIAL FORMpOON GHUNNA ISOLATED FORMαFINAL FORM
oRNOON ISOLATED FORMuFINAL FORMuINITIAL FORMuMEDIAL FORMoHEH WITH YEH ABOVE ISOLATED FORM
θFINAL FORMsGOAL ISOLATED FORMxFINAL FORMxINITIAL FORMxMEDIAL FORMsDOACHASHMEE ISOLATED FORM
εFINAL FORMεINITIAL FORMεMEDIAL FORMoYEH BARREE ISOLATED FORMzFINAL FORM
zWITH HAMZA ABOVE ISOLATED FORMρFINAL FORMhSYMBOL DOT ABOVEsBELOWoTWO DOTS ABOVExBELOW
pHREE DOTS ABOVEzBELOWzPOINTING DOWNWARDS ABOVEσBELOWoFOUR DOTS ABOVEyBELOW
oDOUBLE VERTICAL BAR BELOWoTWO DOTS VERTICALLY ABOVEιBELOWoRINGoSMALL TAH ABOVEyBELOWoWASLA ABOVE"),
   (0xFBD3, "aARABIC LETTER NG ISOLATED FORMrFINAL FORMrINITIAL FORMrMEDIAL FORMoU ISOLATED FORM
qFINAL FORMoOE ISOLATED FORMrFINAL FORMoYU ISOLATED FORMrFINAL FORM
oU WITH HAMZA ABOVE ISOLATED FORMoVE ISOLATED FORMrFINAL FORMoKIRGHIZ OE ISOLATED FORMzFINAL FORM
wYU ISOLATED FORMzFINAL FORMoE ISOLATED FORMqFINAL FORMqINITIAL FORMqMEDIAL FORM
oUIGHUR KAZAKH KIRGHIZ ALEF MAKSURA INITIAL FORMψMEDIAL FORM
iIGATURE YEH WITH HAMZA ABOVE WITH ALEF ISOLATED FORMφFINAL FORMςE ISOLATED FORMτFINAL FORM
ρWAW ISOLATED FORMυFINAL FORMρU ISOLATED FORMσFINAL FORMρOE ISOLATED FORMτFINAL FORM
ρYU ISOLATED FORMτFINAL FORMρE ISOLATED FORMσFINAL FORMσINITIAL FORM
qUIGHUR KIRGHIZ YEH WITH HAMZA ABOVE WITH ALEF MAKSURA ISOLATED FORM
ωE WITH ALEF MAKSURA FINAL FORMωE WITH ALEF MAKSURA INITIAL FORMiETTER FARSI YEH ISOLATED FORM
yFINAL FORMyINITIAL FORMyMEDIAL FORMiIGATURE YEH WITH HAMZA ABOVE WITH JEEM ISOLATED FORM
ρHAH ISOLATED FORMρMEEM ISOLATED FORMρALEF MAKSURA ISOLATED FORMρYEH ISOLATED FORM
qBEH WITH JEEM ISOLATED FORMzHAH ISOLATED FORMzKHAH ISOLATED FORMzMEEM ISOLATED FORM
zALEF MAKSURA ISOLATED FORMzYEH ISOLATED FORMqTEH WITH JEEM ISOLATED FORMzHAH ISOLATED FORM
zKHAH ISOLATED FORMzMEEM ISOLATED FORMzALEF MAKSURA ISOLATED FORMzYEH ISOLATED FORM
rHEH WITH JEEM ISOLATED FORMαMEEM ISOLATED FORMαALEF MAKSURA ISOLATED FORMαYEH ISOLATED FORM
qJEEM WITH HAH ISOLATED FORMαMEEM ISOLATED FORMqHAH WITH JEEM ISOLATED FORMzMEEM ISOLATED FORM
qKHAH WITH JEEM ISOLATED FORMαHAH ISOLATED FORMαMEEM ISOLATED FORMqSEEN WITH JEEM ISOLATED FORM
αHAH ISOLATED FORMαKHAH ISOLATED FORMαMEEM ISOLATED FORMrAD WITH HAH ISOLATED FORM
zMEEM ISOLATED FORMqDAD WITH JEEM ISOLATED FORMzHAH ISOLATED FORMzKHAH ISOLATED FORM
zMEEM ISOLATED FORMqTAH WITH HAH ISOLATED FORMzMEEM ISOLATED FORMqZAH WITH MEEM ISOLATED FORM
qAIN WITH JEEM ISOLATED FORMzMEEM ISOLATED FORMqGHAIN WITH JEEM ISOLATED FORMβMEEM ISOLATED FORM
qFEH WITH JEEM ISOLATED FORMzHAH ISOLATED FORMzKHAH ISOLATED FORMzMEEM ISOLATED FORM
zALEF MAKSURA ISOLATED FORMzYEH ISOLATED FORMqQAF WITH HAH ISOLATED FORMzMEEM ISOLATED FORM
zALEF MAKSURA ISOLATED FORMzYEH ISOLATED FORMqKAF WITH ALEF ISOLATED FORMzJEEM ISOLATED FORM
zHAH ISOLATED FORMzKHAH ISOLATED FORMzLAM ISOLATED FORMzMEEM ISOLATED FORM
zALEF MAKSURA ISOLATED FORMzYEH ISOLATED FORMqLAM WITH JEEM ISOLATED FORMzHAH ISOLATED FORM
zKHAH ISOLATED FORMzMEEM ISOLATED FORMzALEF MAKSURA ISOLATED FORMzYEH ISOLATED FORM
qMEEM WITH JEEM ISOLATED FORMαHAH ISOLATED FORMαKHAH ISOLATED FORMαMEEM ISOLATED FORM
αALEF MAKSURA ISOLATED FORMαYEH ISOLATED FORMqNOON WITH JEEM ISOLATED FORMαHAH ISOLATED FORM
αKHAH ISOLATED FORMαMEEM ISOLATED FORMαALEF MAKSURA ISOLATED FORMαYEH ISOLATED FORM
qHEH WITH JEEM ISOLATED FORMzMEEM ISOLATED FORMzALEF MAKSURA ISOLATED FORMzYEH ISOLATED FORM
qYEH WITH JEEM ISOLATED FORMzHAH ISOLATED FORMzKHAH ISOLATED FORMzMEEM ISOLATED FORM
zALEF MAKSURA ISOLATED FORMzYEH ISOLATED FORMqTHAL WITH SUPERSCRIPT ALEF ISOLATED FORM
qREH WITH SUPERSCRIPT ALEF ISOLATED FORMqALEF MAKSURA WITH SUPERSCRIPT ALEF ISOLATED FORM
qSHADDA WITH DAMMATAN ISOLATED FORMγKASRATAN ISOLATED FORMγFATHA ISOLATED FORM
γDAMMA ISOLATED FORMγKASRA ISOLATED FORMγSUPERSCRIPT ALEF ISOLATED FORM
qYEH WITH HAMZA ABOVE WITH REH FINAL FORMρZAIN FINAL FORMρMEEM FINAL FORMρNOON FINAL FORM
ρALEF MAKSURA FINAL FORMρYEH FINAL FORMqBEH WITH REH FINAL FORMzZAIN FINAL FORMzMEEM FINAL FORM
zNOON FINAL FORMzALEF MAKSURA FINAL FORMzYEH FINAL FORMqTEH WITH REH FINAL FORMzZAIN FINAL FORM
zMEEM FINAL FORMzNOON FINAL FORMzALEF MAKSURA FINAL FORMzYEH FINAL FORMrHEH WITH REH FINAL FORM
αZAIN FINAL FORMαMEEM FINAL FORMαNOON FINAL FORMαALEF MAKSURA FINAL FORMαYEH FINAL FORM
qFEH WITH ALEF MAKSURA FINAL FORMzYEH FINAL FORMqQAF WITH ALEF MAKSURA FINAL FORMzYEH FINAL FORM
qKAF WITH ALEF FINAL FORMzLAM FINAL FORMzMEEM FINAL FORMzALEF MAKSURA FINAL FORMzYEH FINAL FORM
qLAM WITH MEEM FINAL FORMzALEF MAKSURA FINAL FORMzYEH FINAL FORMqMEEM WITH ALEF FINAL FORM
αMEEM FINAL FORMqNOON WITH REH FINAL FORMαZAIN FINAL FORMαMEEM FINAL FORMαNOON FINAL FORM
αALEF MAKSURA FINAL FORMαYEH FINAL FORMqALEF MAKSURA WITH SUPERSCRIPT ALEF FINAL FORM
qYEH WITH REH FINAL FORMzZAIN FINAL FORMzMEEM FINAL FORMzNOON FINAL FORMzALEF MAKSURA FINAL FORM
zYEH FINAL FORMzHAMZA ABOVE WITH JEEM INITIAL FORMρHAH INITIAL FORMρKHAH INITIAL FORM
ρMEEM INITIAL FORMρHEH INITIAL FORMqBEH WITH JEEM INITIAL FORMzHAH INITIAL FORMzKHAH INITIAL FORM
zMEEM INITIAL FORMzHEH INITIAL FORMqTEH WITH JEEM INITIAL FORMzHAH INITIAL FORMzKHAH INITIAL FORM
zMEEM INITIAL FORMzHEH INITIAL FORMrHEH WITH MEEM INITIAL FORMqJEEM WITH HAH INITIAL FORM
αMEEM INITIAL FORMqHAH WITH JEEM INITIAL FORMzMEEM INITIAL FORMqKHAH WITH JEEM INITIAL FORM
αMEEM INITIAL FORMqSEEN WITH JEEM INITIAL FORMαHAH INITIAL FORMαKHAH INITIAL FORM
αMEEM INITIAL FORMrAD WITH HAH INITIAL FORMzKHAH INITIAL FORMzMEEM INITIAL FORM
qDAD WITH JEEM INITIAL FORMzHAH INITIAL FORMzKHAH INITIAL FORMzMEEM INITIAL FORM
qTAH WITH HAH INITIAL FORMqZAH WITH MEEM INITIAL FORMqAIN WITH JEEM INITIAL FORM
zMEEM INITIAL FORMqGHAIN WITH JEEM INITIAL FORMβMEEM INITIAL FORMqFEH WITH JEEM INITIAL FORM
zHAH INITIAL FORMzKHAH INITIAL FORMzMEEM INITIAL FORMqQAF WITH HAH INITIAL FORMzMEEM INITIAL FORM
qKAF WITH JEEM INITIAL FORMzHAH INITIAL FORMzKHAH INITIAL FORMzLAM INITIAL FORMzMEEM INITIAL FORM
qLAM WITH JEEM INITIAL FORMzHAH INITIAL FORMzKHAH INITIAL FORMzMEEM INITIAL FORMzHEH INITIAL FORM
qMEEM WITH JEEM INITIAL FORMαHAH INITIAL FORMαKHAH INITIAL FORMαMEEM INITIAL FORM
qNOON WITH JEEM INITIAL FORMαHAH INITIAL FORMαKHAH INITIAL FORMαMEEM INITIAL FORM
αHEH INITIAL FORMqHEH WITH JEEM INITIAL FORMzMEEM INITIAL FORMzSUPERSCRIPT ALEF INITIAL FORM
qYEH WITH JEEM INITIAL FORMzHAH INITIAL FORMzKHAH INITIAL FORMzMEEM INITIAL FORMzHEH INITIAL FORM
αAMZA ABOVE WITH MEEM MEDIAL FORMρHEH MEDIAL FORMqBEH WITH MEEM MEDIAL FORMzHEH MEDIAL FORM
qTEH WITH MEEM MEDIAL FORMzHEH MEDIAL FORMrHEH WITH MEEM MEDIAL FORMαHEH MEDIAL FORM
qSEEN WITH MEEM MEDIAL FORMαHEH MEDIAL FORMrHEEN WITH MEEM MEDIAL FORMβHEH MEDIAL FORM
qKAF WITH LAM MEDIAL FORMzMEEM MEDIAL FORMqLAM WITH MEEM MEDIAL FORMqNOON WITH MEEM MEDIAL FORM
αHEH MEDIAL FORMqYEH WITH MEEM MEDIAL FORMzHEH MEDIAL FORMqSHADDA WITH FATHA MEDIAL FORM
γDAMMA MEDIAL FORMγKASRA MEDIAL FORMqTAH WITH ALEF MAKSURA ISOLATED FORMzYEH ISOLATED FORM
qAIN WITH ALEF MAKSURA ISOLATED FORMzYEH ISOLATED FORMqGHAIN WITH ALEF MAKSURA ISOLATED FORM
βYEH ISOLATED FORMqSEEN WITH ALEF MAKSURA ISOLATED FORMαYEH ISOLATED FORM
rHEEN WITH ALEF MAKSURA ISOLATED FORMβYEH ISOLATED FORMqHAH WITH ALEF MAKSURA ISOLATED FORM
zYEH ISOLATED FORMqJEEM WITH ALEF MAKSURA ISOLATED FORMαYEH ISOLATED FORM
qKHAH WITH ALEF MAKSURA ISOLATED FORMαYEH ISOLATED FORMqSAD WITH ALEF MAKSURA ISOLATED FORM
zYEH ISOLATED FORMqDAD WITH ALEF MAKSURA ISOLATED FORMzYEH ISOLATED FORM
qSHEEN WITH JEEM ISOLATED FORMβHAH ISOLATED FORMβKHAH ISOLATED FORMβMEEM ISOLATED FORM
βREH ISOLATED FORMrEEN WITH REH ISOLATED FORMrAD WITH REH ISOLATED FORM
qDAD WITH REH ISOLATED FORMqTAH WITH ALEF MAKSURA FINAL FORMzYEH FINAL FORM
qAIN WITH ALEF MAKSURA FINAL FORMzYEH FINAL FORMqGHAIN WITH ALEF MAKSURA FINAL FORM
βYEH FINAL FORMqSEEN WITH ALEF MAKSURA FINAL FORMαYEH FINAL FORM
rHEEN WITH ALEF MAKSURA FINAL FORMβYEH FINAL FORMqHAH WITH ALEF MAKSURA FINAL FORMzYEH FINAL FORM
qJEEM WITH ALEF MAKSURA FINAL FORMαYEH FINAL FORMqKHAH WITH ALEF MAKSURA FINAL FORM
αYEH FINAL FORMqSAD WITH ALEF MAKSURA FINAL FORMzYEH FINAL FORMqDAD WITH ALEF MAKSURA FINAL FORM
zYEH FINAL FORMqSHEEN WITH JEEM FINAL FORMβHAH FINAL FORMβKHAH FINAL FORMβMEEM FINAL FORM
βREH FINAL FORMrEEN WITH REH FINAL FORMrAD WITH REH FINAL FORMqDAD WITH REH FINAL FORM
qSHEEN WITH JEEM INITIAL FORMβHAH INITIAL FORMβKHAH INITIAL FORMβMEEM INITIAL FORM
rEEN WITH HEH INITIAL FORMrHEEN WITH HEH INITIAL FORMqTAH WITH MEEM INITIAL FORM
qSEEN WITH JEEM MEDIAL FORMαHAH MEDIAL FORMαKHAH MEDIAL FORMrHEEN WITH JEEM MEDIAL FORM
βHAH MEDIAL FORMβKHAH MEDIAL FORMqTAH WITH MEEM MEDIAL FORMqZAH WITH MEEM MEDIAL FORM
qALEF WITH FATHATAN FINAL FORMκISOLATED FORMaORNATE LEFT PARENTHESIShRIGHT PARENTHESIS
aARABIC LIGATURE RAHIMAHU ALLAAHsDI ALLAAHU ANHηAAηUMιAAθNNAqSALLALLAAHU ALAYHI WA-AALIH
qALAYHI AS-SALAAMwM AS-SALAAMxAA AS-SALAAMw AS-SALAATU WAS-SALAAMqQUDDISA SIRRAH
qSALLALLAHU ALAYHI WAAALIHEE WA-SALLAMqALAYHAA AS-SALAAMqTABAARAKA WA-TAAALAAqRAHIMAHUM ALLAAH
qTEH WITH JEEM WITH MEEM INITIAL FORMzHAH WITH JEEM FINAL FORMξINITIAL FORMιMEEM INITIAL FORM
zKHAH WITH MEEM INITIAL FORMzMEEM WITH JEEM INITIAL FORMκHAH INITIAL FORMκKHAH INITIAL FORM
qJEEM WITH MEEM WITH HAH FINAL FORMοINITIAL FORMqHAH WITH MEEM WITH YEH FINAL FORM
κALEF MAKSURA FINAL FORMqSEEN WITH HAH WITH JEEM INITIAL FORMαJEEM WITH HAH INITIAL FORM
λALEF MAKSURA FINAL FORMαMEEM WITH HAH FINAL FORMοINITIAL FORMλJEEM INITIAL FORMλMEEM FINAL FORM
πINITIAL FORMrAD WITH HAH WITH HAH FINAL FORMνINITIAL FORMzMEEM WITH MEEM FINAL FORM
rHEEN WITH HAH WITH MEEM FINAL FORMπINITIAL FORMβJEEM WITH YEH FINAL FORM
βMEEM WITH KHAH FINAL FORMρINITIAL FORMμMEEM FINAL FORMρINITIAL FORM
qDAD WITH HAH WITH ALEF MAKSURA FINAL FORMzKHAH WITH MEEM FINAL FORMοINITIAL FORM
qTAH WITH MEEM WITH HAH FINAL FORMξINITIAL FORMκMEEM INITIAL FORMκYEH FINAL FORM
qAIN WITH JEEM WITH MEEM FINAL FORMzMEEM WITH MEEM FINAL FORMοINITIAL FORM
κALEF MAKSURA FINAL FORMqGHAIN WITH MEEM WITH MEEM FINAL FORMμYEH FINAL FORM
μALEF MAKSURA FINAL FORMqFEH WITH KHAH WITH MEEM FINAL FORMοINITIAL FORM
qQAF WITH MEEM WITH HAH FINAL FORMκMEEM FINAL FORMqLAM WITH HAH WITH MEEM FINAL FORM
ιYEH FINAL FORMιALEF MAKSURA FINAL FORMzJEEM WITH JEEM INITIAL FORMοFINAL FORM
zKHAH WITH MEEM FINAL FORMοINITIAL FORMzMEEM WITH HAH FINAL FORMξINITIAL FORM
qMEEM WITH HAH WITH JEEM INITIAL FORMκMEEM INITIAL FORMκYEH FINAL FORMαJEEM WITH HAH INITIAL FORM
λMEEM INITIAL FORMαKHAH WITH JEEM INITIAL FORMλMEEM INITIAL FORM"),
   (0xFD92, "aARABIC LIGATURE MEEM WITH JEEM WITH KHAH INITIAL FORM
qHEH WITH MEEM WITH JEEM INITIAL FORMκMEEM INITIAL FORMqNOON WITH HAH WITH MEEM INITIAL FORM
κALEF MAKSURA FINAL FORMαJEEM WITH MEEM FINAL FORMπINITIAL FORMλALEF MAKSURA FINAL FORM
αMEEM WITH YEH FINAL FORMλALEF MAKSURA FINAL FORMqYEH WITH MEEM WITH MEEM FINAL FORMοINITIAL FORM
qBEH WITH KHAH WITH YEH FINAL FORMqTEH WITH JEEM WITH YEH FINAL FORMκALEF MAKSURA FINAL FORM
zKHAH WITH YEH FINAL FORMκALEF MAKSURA FINAL FORMzMEEM WITH YEH FINAL FORM
κALEF MAKSURA FINAL FORMqJEEM WITH MEEM WITH YEH FINAL FORMαHAH WITH ALEF MAKSURA FINAL FORM
αMEEM WITH ALEF MAKSURA FINAL FORMqSEEN WITH KHAH WITH ALEF MAKSURA FINAL FORM
rAD WITH HAH WITH YEH FINAL FORMrHEEN WITH HAH WITH YEH FINAL FORM
qDAD WITH HAH WITH YEH FINAL FORMqLAM WITH JEEM WITH YEH FINAL FORMzMEEM WITH YEH FINAL FORM
qYEH WITH HAH WITH YEH FINAL FORMzJEEM WITH YEH FINAL FORMzMEEM WITH YEH FINAL FORM
qMEEM WITH MEEM WITH YEH FINAL FORMqQAF WITH MEEM WITH YEH FINAL FORM
qNOON WITH HAH WITH YEH FINAL FORMqQAF WITH MEEM WITH HAH INITIAL FORM
qLAM WITH HAH WITH MEEM INITIAL FORMqAIN WITH MEEM WITH YEH FINAL FORM
qKAF WITH MEEM WITH YEH FINAL FORMqNOON WITH JEEM WITH HAH INITIAL FORM
qMEEM WITH KHAH WITH YEH FINAL FORMqLAM WITH JEEM WITH MEEM INITIAL FORM
qKAF WITH MEEM WITH MEEM FINAL FORMqLAM WITH JEEM WITH MEEM FINAL FORM
qNOON WITH JEEM WITH HAH FINAL FORMqJEEM WITH HAH WITH YEH FINAL FORM
qHAH WITH JEEM WITH YEH FINAL FORMqMEEM WITH JEEM WITH YEH FINAL FORM
qFEH WITH MEEM WITH YEH FINAL FORMqBEH WITH HAH WITH YEH FINAL FORM
qKAF WITH MEEM WITH MEEM INITIAL FORMqAIN WITH JEEM WITH MEEM INITIAL FORM
qSAD WITH MEEM WITH MEEM INITIAL FORMrEEN WITH KHAH WITH YEH FINAL FORM
qNOON WITH JEEM WITH YEH FINAL FORM"),
   (0xFDCF, "aARABIC LIGATURE SALAAMUHU ALAYNAA"),
   (0xFDF0, "aARABIC LIGATURE SALLA USED AS KORANIC STOP SIGN ISOLATED FORM
qQALA USED AS KORANIC STOP SIGN ISOLATED FORMqALLAH ISOLATED FORMrKBAR ISOLATED FORM
qMOHAMMAD ISOLATED FORMqSALAM ISOLATED FORMqRASOUL ISOLATED FORMqALAYHE ISOLATED FORM
qWASALLAM ISOLATED FORMqSALLA ISOLATED FORMvLLAHOU ALAYHE WASALLAMqJALLAJALALOUHOUaRIAL SIGN
aARABIC LIGATURE BISMILLAH AR-RAHMAN AR-RAHEEMqSUBHAANAHU WA TAAALAAqAZZA WA JALL
aVARIATION SELECTOR-1t2t3t4t5t6t7t8t9t10u1u2u3u4u5u6aPRESENTATION FORM FOR VERTICAL COMMA
ζIDEOGRAPHIC COMMAςFULL STOPζCOLONζSEMICOLONζEXCLAMATION MARKζQUESTION MARK
ζLEFT WHITE LENTICULAR BRACKETζRIGHT WHITE LENTICULAR BRAKCETζHORIZONTAL ELLIPSIS"),
   (0xFE20, "aCOMBINING LIGATURE LEFT HALFtRIGHT HALFkDOUBLE TILDE LEFT HALFxRIGHT HALF
kMACRON LEFT HALFrRIGHT HALFkCONJOINING MACRONkLIGATURE LEFT HALF BELOWtRIGHT HALF BELOW
kTILDE LEFT HALF BELOWqRIGHT HALF BELOWkMACRON LEFT HALF BELOWrRIGHT HALF BELOW
kCONJOINING MACRON BELOWlYRILLIC TITLO LEFT HALFzRIGHT HALF
aPRESENTATION FORM FOR VERTICAL TWO DOT LEADERζEM DASHηN DASHζLOW LINEζWAVY LOW LINE
ζLEFT PARENTHESISζRIGHT PARENTHESISζLEFT CURLY BRACKETζRIGHT CURLY BRACKET
ζLEFT TORTOISE SHELL BRACKETζRIGHT TORTOISE SHELL BRACKETζLEFT BLACK LENTICULAR BRACKET
ζRIGHT BLACK LENTICULAR BRACKETζLEFT DOUBLE ANGLE BRACKETζRIGHT DOUBLE ANGLE BRACKET
ζLEFT ANGLE BRACKETζRIGHT ANGLE BRACKETζLEFT CORNER BRACKETζRIGHT CORNER BRACKET
ζLEFT WHITE CORNER BRACKETζRIGHT WHITE CORNER BRACKETaSESAME DOTaWHITE SESAME DOT
aPRESENTATION FORM FOR VERTICAL LEFT SQUARE BRACKETζRIGHT SQUARE BRACKETaDASHED OVERLINE
aCENTRELINE OVERLINEaWAVY OVERLINEaDOUBLE WAVY OVERLINEbASHED LOW LINEaCENTRELINE LOW LINE
aWAVY LOW LINEaSMALL COMMAgIDEOGRAPHIC COMMAgFULL STOP"),
   (0xFE54, "aSMALL SEMICOLONgCOLONgQUESTION MARKgEXCLAMATION MARKhM DASHgLEFT PARENTHESIS
gRIGHT PARENTHESISgLEFT CURLY BRACKETgRIGHT CURLY BRACKETgLEFT TORTOISE SHELL BRACKET
gRIGHT TORTOISE SHELL BRACKETgNUMBER SIGNgAMPERSANDhSTERISKgPLUS SIGNgHYPHEN-MINUSgLESS-THAN SIGN
gGREATER-THAN SIGNgEQUALS SIGN"),
   (0xFE68, "aSMALL REVERSE SOLIDUSgDOLLAR SIGNgPERCENT SIGNgCOMMERCIAL AT"),
   (0xFE70, "aARABIC FATHATAN ISOLATED FORMhTATWEEL WITH FATHATAN ABOVEhDAMMATAN ISOLATED FORM
hTAIL FRAGMENThKASRATAN ISOLATED FORM"),
   (0xFE76, "aARABIC FATHA ISOLATED FORMnMEDIAL FORMhDAMMA ISOLATED FORMnMEDIAL FORM
hKASRA ISOLATED FORMnMEDIAL FORMhSHADDA ISOLATED FORMoMEDIAL FORMiUKUN ISOLATED FORMnMEDIAL FORM
hLETTER HAMZA ISOLATED FORMoALEF WITH MADDA ABOVE ISOLATED FORMλFINAL FORM
yHAMZA ABOVE ISOLATED FORMλFINAL FORMoWAW WITH HAMZA ABOVE ISOLATED FORMκFINAL FORM
oALEF WITH HAMZA BELOW ISOLATED FORMλFINAL FORMoYEH WITH HAMZA ABOVE ISOLATED FORMκFINAL FORM
κINITIAL FORMκMEDIAL FORMoALEF ISOLATED FORMtFINAL FORMoBEH ISOLATED FORMsFINAL FORMsINITIAL FORM
sMEDIAL FORMoTEH MARBUTA ISOLATED FORMαFINAL FORMsISOLATED FORMsFINAL FORMsINITIAL FORM
sMEDIAL FORMpHEH ISOLATED FORMtFINAL FORMtINITIAL FORMtMEDIAL FORMoJEEM ISOLATED FORMtFINAL FORM
tINITIAL FORMtMEDIAL FORMoHAH ISOLATED FORMsFINAL FORMsINITIAL FORMsMEDIAL FORM
oKHAH ISOLATED FORMtFINAL FORMtINITIAL FORMtMEDIAL FORMoDAL ISOLATED FORMsFINAL FORM
oTHAL ISOLATED FORMtFINAL FORMoREH ISOLATED FORMsFINAL FORMoZAIN ISOLATED FORMtFINAL FORM
oSEEN ISOLATED FORMtFINAL FORMtINITIAL FORMtMEDIAL FORMpHEEN ISOLATED FORMuFINAL FORM
uINITIAL FORMuMEDIAL FORMpAD ISOLATED FORMsFINAL FORMsINITIAL FORMsMEDIAL FORMoDAD ISOLATED FORM
sFINAL FORMsINITIAL FORMsMEDIAL FORMoTAH ISOLATED FORMsFINAL FORMsINITIAL FORMsMEDIAL FORM
oZAH ISOLATED FORMsFINAL FORMsINITIAL FORMsMEDIAL FORMoAIN ISOLATED FORMsFINAL FORMsINITIAL FORM
sMEDIAL FORMoGHAIN ISOLATED FORMuFINAL FORMuINITIAL FORMuMEDIAL FORMoFEH ISOLATED FORMsFINAL FORM
sINITIAL FORMsMEDIAL FORMoQAF ISOLATED FORMsFINAL FORMsINITIAL FORMsMEDIAL FORMoKAF ISOLATED FORM
sFINAL FORMsINITIAL FORMsMEDIAL FORMoLAM ISOLATED FORMsFINAL FORMsINITIAL FORMsMEDIAL FORM
oMEEM ISOLATED FORMtFINAL FORMtINITIAL FORMtMEDIAL FORMoNOON ISOLATED FORMtFINAL FORM
tINITIAL FORMtMEDIAL FORMoHEH ISOLATED FORMsFINAL FORMsINITIAL FORMsMEDIAL FORMoWAW ISOLATED FORM
sFINAL FORMoALEF MAKSURA ISOLATED FORMβFINAL FORMoYEH ISOLATED FORMsFINAL FORMsINITIAL FORM
sMEDIAL FORMiIGATURE LAM WITH ALEF WITH MADDA ABOVE ISOLATED FORMφFINAL FORM
κHAMZA ABOVE ISOLATED FORMφFINAL FORMπBELOW ISOLATED FORMφFINAL FORMεISOLATED FORMεFINAL FORM"),
   (0xFEFF, "aZERO WIDTH NO-BREAK SPACE"),
   (0xFF01, "aFULLWIDTH EXCLAMATION MARKkQUOTATION MARKkNUMBER SIGNkDOLLAR SIGNkPERCENT SIGN
kAMPERSANDlPOSTROPHEkLEFT PARENTHESISkRIGHT PARENTHESISkASTERISKkPLUS SIGNkCOMMAkHYPHEN-MINUS
kFULL STOPkSOLIDUSkDIGIT ZEROqONEqTWOrHREEqFOURrIVEqSIXrEVENqEIGHTqNINEkCOLONkSEMICOLON
kLESS-THAN SIGNkEQUALS SIGNkGREATER-THAN SIGNkQUESTION MARKkCOMMERCIAL ATkLATIN CAPITAL LETTER A
ζBζCζDζEζFζGζHζIζJζKζLζMζNζOζPζQζRζSζTζUζVζWζXζYζZlEFT SQUARE BRACKETkREVERSE SOLIDUS
lIGHT SQUARE BRACKETkCIRCUMFLEX ACCENTkLOW LINEkGRAVE ACCENTkLATIN SMALL LETTER AδBδCδDδEδFδGδHδI
δJδKδLδMδNδOδPδQδRδSδTδUδVδWδXδYδZlEFT CURLY BRACKETkVERTICAL LINEkRIGHT CURLY BRACKETkTILDE
kLEFT WHITE PARENTHESISkRIGHT WHITE PARENTHESISaHALFWIDTH IDEOGRAPHIC FULL STOP
kLEFT CORNER BRACKETkRIGHT CORNER BRACKETkIDEOGRAPHIC COMMAkKATAKANA MIDDLE DOTtLETTER WOαSMALL A
ηIηUηEηOηYAθUθOηTUs-HIRAGANA PROLONGED SOUND MARKs LETTER AαIαUαEαOαKAβIβUβEβOαSAβIβUβEβOαTAβIβU
βEβOαNAβIβUβEβOαHAβIβUβEβOαMAβIβUβEβOαYAβUβOαRAβIβUβEβOαWAαNtVOICED SOUND MARK
tSEMI-VOICED SOUND MARKkHANGUL FILLERrLETTER KIYEOKySSANGKIYEOKyKIYEOK-SIOSyNIEUNδ-CIEUCεHIEUH
yTIKEUTySSANGTIKEUTyRIEULδ-KIYEOKεMIEUMεPIEUPεSIOSεTHIEUTHεPHIEUPHεHIEUHyMIEUMyPIEUPySSANGPIEUP
yPIEUP-SIOSySIOSzSANGSIOSyIEUNGyCIEUCySSANGCIEUCyCHIEUCHyKHIEUKHyTHIEUTHyPHIEUPHyHIEUH"),
   (0xFFC2, "aHALFWIDTH HANGUL LETTER AzEyYAαEyEOz"),
   (0xFFCA, "aHALFWIDTH HANGUL LETTER YEOαyOyWAαEyOE"),
   (0xFFD2, "aHALFWIDTH HANGUL LETTER YOyUyWEOαzIyYU"),
   (0xFFDA, "aHALFWIDTH HANGUL LETTER EUyYIyI"),
   (0xFFE0, "aFULLWIDTH CENT SIGNkPOUND SIGNkNOT SIGNkMACRONkBROKEN BARkYEN SIGNkWON SIGN"),
   (0xFFE8, "aHALFWIDTH FORMS LIGHT VERTICALkLEFTWARDS ARROWkUPWARDS ARROWkRIGHTWARDS ARROW
kDOWNWARDS ARROWkBLACK SQUAREkWHITE CIRCLE"),
   (0xFFF9, "aINTERLINEAR ANNOTATION ANCHORxSEPARATORxTERMINATORaOBJECT REPLACEMENT CHARACTER
aREPLACEMENT CHARACTER")]

end DocBraces.Text
