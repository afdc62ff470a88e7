/-!
# Names of characters: letters and signs of the scripts in use below 0x2000

Rows of names of consecutive code points, each row with its first code point. A name
is written as a mark and a tail: the mark says how many characters it shares with the
name before it.
-/

set_option autoImplicit false

namespace DocBraces.Text

def scriptsNames : List (Nat × String) :=
  [(0x20, "aSPACEaEXCLAMATION MARKaQUOTATION MARKaNUMBER SIGNaDOLLAR SIGNaPERCENT SIGNaAMPERSAND
bPOSTROPHEaLEFT PARENTHESISaRIGHT PARENTHESISaASTERISKaPLUS SIGNaCOMMAaHYPHEN-MINUSaFULL STOP
aSOLIDUSaDIGIT ZEROgONEgTWOhHREEgFOURhIVEgSIXhEVENgEIGHTgNINEaCOLONaSEMICOLONaLESS-THAN SIGN
aEQUALS SIGNaGREATER-THAN SIGNaQUESTION MARKaCOMMERCIAL ATaLATIN CAPITAL LETTER AvBvCvDvEvFvGvHvI
vJvKvLvMvNvOvPvQvRvSvTvUvVvWvXvYvZbEFT SQUARE BRACKETaREVERSE SOLIDUSbIGHT SQUARE BRACKET
aCIRCUMFLEX ACCENTaLOW LINEaGRAVE ACCENTaLATIN SMALL LETTER AtBtCtDtEtFtGtHtItJtKtLtMtNtOtPtQtRtS
tTtUtVtWtXtYtZbEFT CURLY BRACKETaVERTICAL LINEaRIGHT CURLY BRACKETaTILDE"),
   (0xA0, "aNO-BREAK SPACEaINVERTED EXCLAMATION MARKaCENT SIGNaPOUND SIGNaCURRENCY SIGNaYEN SIGN
aBROKEN BARaSECTION SIGNaDIAERESISaCOPYRIGHT SIGNaFEMININE ORDINAL INDICATOR
aLEFT-POINTING DOUBLE ANGLE QUOTATION MARKaNOT SIGNaSOFT HYPHENaREGISTERED SIGNaMACRON
aDEGREE SIGNaPLUS-MINUS SIGNaSUPERSCRIPT TWOnHREEaACUTE ACCENTaMICRO SIGNaPILCROW SIGNaMIDDLE DOT
aCEDILLAaSUPERSCRIPT ONEaMASCULINE ORDINAL INDICATORaRIGHT-POINTING DOUBLE ANGLE QUOTATION MARK
aVULGAR FRACTION ONE QUARTERuHALFqTHREE QUARTERSaINVERTED QUESTION MARK
aLATIN CAPITAL LETTER A WITH GRAVEγACUTEγCIRCUMFLEXγTILDEγDIAERESISγRING ABOVEwEvC WITH CEDILLA
vE WITH GRAVEγACUTEγCIRCUMFLEXγDIAERESISvI WITH GRAVEγACUTEγCIRCUMFLEXγDIAERESISvETHvN WITH TILDE
vO WITH GRAVEγACUTEγCIRCUMFLEXγTILDEγDIAERESISaMULTIPLICATION SIGN
aLATIN CAPITAL LETTER O WITH STROKEvU WITH GRAVEγACUTEγCIRCUMFLEXγDIAERESISvY WITH ACUTEvTHORN
gSMALL LETTER SHARP StA WITH GRAVEαACUTEαCIRCUMFLEXαTILDEαDIAERESISαRING ABOVEuEtC WITH CEDILLA
tE WITH GRAVEαACUTEαCIRCUMFLEXαDIAERESIStI WITH GRAVEαACUTEαCIRCUMFLEXαDIAERESIStETHtN WITH TILDE
tO WITH GRAVEαACUTEαCIRCUMFLEXαTILDEαDIAERESISaDIVISION SIGNaLATIN SMALL LETTER O WITH STROKE
tU WITH GRAVEαACUTEαCIRCUMFLEXαDIAERESIStY WITH ACUTEtTHORNtY WITH DIAERESIS
gCAPITAL LETTER A WITH MACRONgSMALL LETTER A WITH MACRONgCAPITAL LETTER A WITH BREVE
gSMALL LETTER A WITH BREVEgCAPITAL LETTER A WITH OGONEKgSMALL LETTER A WITH OGONEK
gCAPITAL LETTER C WITH ACUTEgSMALL LETTER C WITH ACUTEgCAPITAL LETTER C WITH CIRCUMFLEX
gSMALL LETTER C WITH CIRCUMFLEXgCAPITAL LETTER C WITH DOT ABOVEgSMALL LETTER C WITH DOT ABOVE
gCAPITAL LETTER C WITH CARONgSMALL LETTER C WITH CARONgCAPITAL LETTER D WITH CARON
gSMALL LETTER D WITH CARONgCAPITAL LETTER D WITH STROKEgSMALL LETTER D WITH STROKE
gCAPITAL LETTER E WITH MACRONgSMALL LETTER E WITH MACRONgCAPITAL LETTER E WITH BREVE
gSMALL LETTER E WITH BREVEgCAPITAL LETTER E WITH DOT ABOVEgSMALL LETTER E WITH DOT ABOVE
gCAPITAL LETTER E WITH OGONEKgSMALL LETTER E WITH OGONEKgCAPITAL LETTER E WITH CARON
gSMALL LETTER E WITH CARONgCAPITAL LETTER G WITH CIRCUMFLEXgSMALL LETTER G WITH CIRCUMFLEX
gCAPITAL LETTER G WITH BREVEgSMALL LETTER G WITH BREVEgCAPITAL LETTER G WITH DOT ABOVE
gSMALL LETTER G WITH DOT ABOVEgCAPITAL LETTER G WITH CEDILLAgSMALL LETTER G WITH CEDILLA
gCAPITAL LETTER H WITH CIRCUMFLEXgSMALL LETTER H WITH CIRCUMFLEXgCAPITAL LETTER H WITH STROKE
gSMALL LETTER H WITH STROKEgCAPITAL LETTER I WITH TILDEgSMALL LETTER I WITH TILDE
gCAPITAL LETTER I WITH MACRONgSMALL LETTER I WITH MACRONgCAPITAL LETTER I WITH BREVE
gSMALL LETTER I WITH BREVEgCAPITAL LETTER I WITH OGONEKgSMALL LETTER I WITH OGONEK
gCAPITAL LETTER I WITH DOT ABOVEgSMALL LETTER DOTLESS IgCAPITAL LIGATURE IJgSMALL LIGATURE IJ
gCAPITAL LETTER J WITH CIRCUMFLEXgSMALL LETTER J WITH CIRCUMFLEXgCAPITAL LETTER K WITH CEDILLA
gSMALL LETTER K WITH CEDILLAuRAgCAPITAL LETTER L WITH ACUTEgSMALL LETTER L WITH ACUTE
gCAPITAL LETTER L WITH CEDILLAgSMALL LETTER L WITH CEDILLAgCAPITAL LETTER L WITH CARON
gSMALL LETTER L WITH CARONgCAPITAL LETTER L WITH MIDDLE DOTgSMALL LETTER L WITH MIDDLE DOT
gCAPITAL LETTER L WITH STROKEgSMALL LETTER L WITH STROKEgCAPITAL LETTER N WITH ACUTE
gSMALL LETTER N WITH ACUTEgCAPITAL LETTER N WITH CEDILLAgSMALL LETTER N WITH CEDILLA
gCAPITAL LETTER N WITH CARONgSMALL LETTER N WITH CARONvPRECEDED BY APOSTROPHEgCAPITAL LETTER ENG
gSMALL LETTER ENGgCAPITAL LETTER O WITH MACRONgSMALL LETTER O WITH MACRON
gCAPITAL LETTER O WITH BREVEgSMALL LETTER O WITH BREVEgCAPITAL LETTER O WITH DOUBLE ACUTE
gSMALL LETTER O WITH DOUBLE ACUTEgCAPITAL LIGATURE OEgSMALL LIGATURE OE
gCAPITAL LETTER R WITH ACUTEgSMALL LETTER R WITH ACUTEgCAPITAL LETTER R WITH CEDILLA
gSMALL LETTER R WITH CEDILLAgCAPITAL LETTER R WITH CARONgSMALL LETTER R WITH CARON
gCAPITAL LETTER S WITH ACUTEgSMALL LETTER S WITH ACUTEgCAPITAL LETTER S WITH CIRCUMFLEX
gSMALL LETTER S WITH CIRCUMFLEXgCAPITAL LETTER S WITH CEDILLAgSMALL LETTER S WITH CEDILLA
gCAPITAL LETTER S WITH CARONgSMALL LETTER S WITH CARONgCAPITAL LETTER T WITH CEDILLA
gSMALL LETTER T WITH CEDILLAgCAPITAL LETTER T WITH CARONgSMALL LETTER T WITH CARON
gCAPITAL LETTER T WITH STROKEgSMALL LETTER T WITH STROKEgCAPITAL LETTER U WITH TILDE
gSMALL LETTER U WITH TILDEgCAPITAL LETTER U WITH MACRONgSMALL LETTER U WITH MACRON
gCAPITAL LETTER U WITH BREVEgSMALL LETTER U WITH BREVEgCAPITAL LETTER U WITH RING ABOVE
gSMALL LETTER U WITH RING ABOVEgCAPITAL LETTER U WITH DOUBLE ACUTE
gSMALL LETTER U WITH DOUBLE ACUTEgCAPITAL LETTER U WITH OGONEKgSMALL LETTER U WITH OGONEK
gCAPITAL LETTER W WITH CIRCUMFLEXgSMALL LETTER W WITH CIRCUMFLEXgCAPITAL LETTER Y WITH CIRCUMFLEX
gSMALL LETTER Y WITH CIRCUMFLEXgCAPITAL LETTER Y WITH DIAERESISvZ WITH ACUTE
gSMALL LETTER Z WITH ACUTEgCAPITAL LETTER Z WITH DOT ABOVEgSMALL LETTER Z WITH DOT ABOVE
gCAPITAL LETTER Z WITH CARONgSMALL LETTER Z WITH CARONtLONG StB WITH STROKE
gCAPITAL LETTER B WITH HOOKγTOPBARgSMALL LETTER B WITH TOPBARgCAPITAL LETTER TONE SIX
gSMALL LETTER TONE SIXgCAPITAL LETTER OPEN OvC WITH HOOKgSMALL LETTER C WITH HOOK
gCAPITAL LETTER AFRICAN DvD WITH HOOKγTOPBARgSMALL LETTER D WITH TOPBARtTURNED DELTA
gCAPITAL LETTER REVERSED EvSCHWAvOPEN EvF WITH HOOKgSMALL LETTER F WITH HOOK
gCAPITAL LETTER G WITH HOOKwAMMAgSMALL LETTER HVgCAPITAL LETTER IOTAw WITH STROKEvK WITH HOOK
gSMALL LETTER K WITH HOOKtL WITH BARuAMBDA WITH STROKEgCAPITAL LETTER TURNED MvN WITH LEFT HOOK
gSMALL LETTER N WITH LONG RIGHT LEGgCAPITAL LETTER O WITH MIDDLE TILDEγHORN
gSMALL LETTER O WITH HORNgCAPITAL LETTER OIgSMALL LETTER OIgCAPITAL LETTER P WITH HOOK
gSMALL LETTER P WITH HOOKgLETTER YRgCAPITAL LETTER TONE TWOgSMALL LETTER TONE TWO
gCAPITAL LETTER ESHgLETTER REVERSED ESH LOOPgSMALL LETTER T WITH PALATAL HOOK
gCAPITAL LETTER T WITH HOOKgSMALL LETTER T WITH HOOKgCAPITAL LETTER T WITH RETROFLEX HOOK
vU WITH HORNgSMALL LETTER U WITH HORNgCAPITAL LETTER UPSILONvV WITH HOOKvY WITH HOOK
gSMALL LETTER Y WITH HOOKgCAPITAL LETTER Z WITH STROKEgSMALL LETTER Z WITH STROKE
gCAPITAL LETTER EZHy REVERSEDgSMALL LETTER EZH REVERSEDxWITH TAILgLETTER TWO WITH STROKE
gCAPITAL LETTER TONE FIVEgSMALL LETTER TONE FIVEgLETTER INVERTED GLOTTAL STOP WITH STROKEnWYNN
nDENTAL CLICKnLATERAL CLICKnALVEOLAR CLICKnRETROFLEX CLICKgCAPITAL LETTER DZ WITH CARON
w WITH SMALL LETTER Z WITH CARONgSMALL LETTER DZ WITH CARONgCAPITAL LETTER LJ
w WITH SMALL LETTER JgSMALL LETTER LJgCAPITAL LETTER NJw WITH SMALL LETTER JgSMALL LETTER NJ
gCAPITAL LETTER A WITH CARONgSMALL LETTER A WITH CARONgCAPITAL LETTER I WITH CARON
gSMALL LETTER I WITH CARONgCAPITAL LETTER O WITH CARONgSMALL LETTER O WITH CARON
gCAPITAL LETTER U WITH CARONgSMALL LETTER U WITH CARONgCAPITAL LETTER U WITH DIAERESIS AND MACRON
gSMALL LETTER U WITH DIAERESIS AND MACRONgCAPITAL LETTER U WITH DIAERESIS AND ACUTE
gSMALL LETTER U WITH DIAERESIS AND ACUTEgCAPITAL LETTER U WITH DIAERESIS AND CARON
gSMALL LETTER U WITH DIAERESIS AND CARONgCAPITAL LETTER U WITH DIAERESIS AND GRAVE
gSMALL LETTER U WITH DIAERESIS AND GRAVEtTURNED EgCAPITAL LETTER A WITH DIAERESIS AND MACRON
gSMALL LETTER A WITH DIAERESIS AND MACRONgCAPITAL LETTER A WITH DOT ABOVE AND MACRON
gSMALL LETTER A WITH DOT ABOVE AND MACRONgCAPITAL LETTER AE WITH MACRON
gSMALL LETTER AE WITH MACRONgCAPITAL LETTER G WITH STROKEgSMALL LETTER G WITH STROKE
gCAPITAL LETTER G WITH CARONgSMALL LETTER G WITH CARONgCAPITAL LETTER K WITH CARON
gSMALL LETTER K WITH CARONgCAPITAL LETTER O WITH OGONEKgSMALL LETTER O WITH OGONEK
gCAPITAL LETTER O WITH OGONEK AND MACRONgSMALL LETTER O WITH OGONEK AND MACRON
gCAPITAL LETTER EZH WITH CARONgSMALL LETTER EZH WITH CARONtJ WITH CARONgCAPITAL LETTER DZ
w WITH SMALL LETTER ZgSMALL LETTER DZgCAPITAL LETTER G WITH ACUTEgSMALL LETTER G WITH ACUTE
gCAPITAL LETTER HWAIRvWYNNvN WITH GRAVEgSMALL LETTER N WITH GRAVE
gCAPITAL LETTER A WITH RING ABOVE AND ACUTEgSMALL LETTER A WITH RING ABOVE AND ACUTE
gCAPITAL LETTER AE WITH ACUTEgSMALL LETTER AE WITH ACUTEgCAPITAL LETTER O WITH STROKE AND ACUTE
gSMALL LETTER O WITH STROKE AND ACUTEgCAPITAL LETTER A WITH DOUBLE GRAVE
gSMALL LETTER A WITH DOUBLE GRAVEgCAPITAL LETTER A WITH INVERTED BREVE
gSMALL LETTER A WITH INVERTED BREVEgCAPITAL LETTER E WITH DOUBLE GRAVE
gSMALL LETTER E WITH DOUBLE GRAVEgCAPITAL LETTER E WITH INVERTED BREVE
gSMALL LETTER E WITH INVERTED BREVEgCAPITAL LETTER I WITH DOUBLE GRAVE
gSMALL LETTER I WITH DOUBLE GRAVEgCAPITAL LETTER I WITH INVERTED BREVE
gSMALL LETTER I WITH INVERTED BREVEgCAPITAL LETTER O WITH DOUBLE GRAVE
gSMALL LETTER O WITH DOUBLE GRAVEgCAPITAL LETTER O WITH INVERTED BREVE
gSMALL LETTER O WITH INVERTED BREVEgCAPITAL LETTER R WITH DOUBLE GRAVE
gSMALL LETTER R WITH DOUBLE GRAVEgCAPITAL LETTER R WITH INVERTED BREVE
gSMALL LETTER R WITH INVERTED BREVEgCAPITAL LETTER U WITH DOUBLE GRAVE
gSMALL LETTER U WITH DOUBLE GRAVEgCAPITAL LETTER U WITH INVERTED BREVE
gSMALL LETTER U WITH INVERTED BREVEgCAPITAL LETTER S WITH COMMA BELOW
gSMALL LETTER S WITH COMMA BELOWgCAPITAL LETTER T WITH COMMA BELOW
gSMALL LETTER T WITH COMMA BELOWgCAPITAL LETTER YOGHgSMALL LETTER YOGH
gCAPITAL LETTER H WITH CARONgSMALL LETTER H WITH CARONgCAPITAL LETTER N WITH LONG RIGHT LEG
gSMALL LETTER D WITH CURLgCAPITAL LETTER OUgSMALL LETTER OUgCAPITAL LETTER Z WITH HOOK
gSMALL LETTER Z WITH HOOKgCAPITAL LETTER A WITH DOT ABOVEgSMALL LETTER A WITH DOT ABOVE
gCAPITAL LETTER E WITH CEDILLAgSMALL LETTER E WITH CEDILLA
gCAPITAL LETTER O WITH DIAERESIS AND MACRONgSMALL LETTER O WITH DIAERESIS AND MACRON
gCAPITAL LETTER O WITH TILDE AND MACRONgSMALL LETTER O WITH TILDE AND MACRON
gCAPITAL LETTER O WITH DOT ABOVEgSMALL LETTER O WITH DOT ABOVE
gCAPITAL LETTER O WITH DOT ABOVE AND MACRONgSMALL LETTER O WITH DOT ABOVE AND MACRON
gCAPITAL LETTER Y WITH MACRONgSMALL LETTER Y WITH MACRONtL WITH CURLtN WITH CURLtT WITH CURL
tDOTLESS JuB DIGRAPHtQP DIGRAPHgCAPITAL LETTER A WITH STROKEvC WITH STROKE
gSMALL LETTER C WITH STROKEgCAPITAL LETTER L WITH BARvT WITH DIAGONAL STROKE
gSMALL LETTER S WITH SWASH TAILtZ WITH SWASH TAILgCAPITAL LETTER GLOTTAL STOP
gSMALL LETTER GLOTTAL STOPgCAPITAL LETTER B WITH STROKEvU BARvTURNED VvE WITH STROKE
gSMALL LETTER E WITH STROKEgCAPITAL LETTER J WITH STROKEgSMALL LETTER J WITH STROKE
gCAPITAL LETTER SMALL Q WITH HOOK TAILgSMALL LETTER Q WITH HOOK TAILgCAPITAL LETTER R WITH STROKE
gSMALL LETTER R WITH STROKEgCAPITAL LETTER Y WITH STROKEgSMALL LETTER Y WITH STROKEtTURNED A
tALPHAtTURNED ALPHAtB WITH HOOKtOPEN OtC WITH CURLtD WITH TAILαHOOKtREVERSED EtSCHWAy WITH HOOK
tOPEN EtREVERSED OPEN Eι WITH HOOKtCLOSED REVERSED OPEN EtDOTLESS J WITH STROKEtG WITH HOOK
tSCRIPT GgLETTER SMALL CAPITAL GgSMALL LETTER GAMMAtRAMS HORNtTURNED HtH WITH HOOKuENG WITH HOOK
tI WITH STROKEuOTAgLETTER SMALL CAPITAL IgSMALL LETTER L WITH MIDDLE TILDEαBELTαRETROFLEX HOOK
uEZHtTURNED Mβ WITH LONG LEGtM WITH HOOKtN WITH LEFT HOOKαRETROFLEX HOOKgLETTER SMALL CAPITAL N
gSMALL LETTER BARRED OgLETTER SMALL CAPITAL OEgSMALL LETTER CLOSED OMEGAtPHItTURNED R
β WITH LONG LEGθHOOKtR WITH LONG LEGαTAILαFISHHOOKuEVERSED R WITH FISHHOOKgLETTER SMALL CAPITAL R
βINVERTED RgSMALL LETTER S WITH HOOKtESHtDOTLESS J WITH STROKE AND HOOKtSQUAT REVERSED ESH
tESH WITH CURLtTURNED Tu WITH RETROFLEX HOOKtU BARuPSILONtV WITH HOOKtTURNED VαWαY
gLETTER SMALL CAPITAL YgSMALL LETTER Z WITH RETROFLEX HOOKαCURLtEZHw WITH CURL
gLETTER GLOTTAL STOPnPHARYNGEAL VOICED FRICATIVEnINVERTED GLOTTAL STOPnSTRETCHED CnBILABIAL CLICK
nSMALL CAPITAL BgSMALL LETTER CLOSED OPEN EgLETTER SMALL CAPITAL G WITH HOOKβH
gSMALL LETTER J WITH CROSSED-TAILtTURNED KgLETTER SMALL CAPITAL LgSMALL LETTER Q WITH HOOK
gLETTER GLOTTAL STOP WITH STROKEnREVERSED GLOTTAL STOP WITH STROKEgSMALL LETTER DZ DIGRAPH
uEZH DIGRAPHuZ DIGRAPH WITH CURLtTS DIGRAPHuESH DIGRAPHuC DIGRAPH WITH CURLtFENG DIGRAPH
tLS DIGRAPHuZ DIGRAPHgLETTER BILABIAL PERCUSSIVEpDENTAL PERCUSSIVE
gSMALL LETTER TURNED H WITH FISHHOOKπ AND TAILaMODIFIER LETTER SMALL Hx WITH HOOKwJwRwTURNED R
ε WITH HOOKwCAPITAL INVERTED RwWwYqPRIMEqDOUBLE PRIMEqTURNED COMMAqAPOSTROPHEqREVERSED COMMA
rIGHT HALF RINGqLEFT HALF RINGqGLOTTAL STOPqREVERSED GLOTTAL STOPqLEFT ARROWHEADqRIGHT ARROWHEAD
qUP ARROWHEADqDOWN ARROWHEADqCIRCUMFLEX ACCENTaCARONaMODIFIER LETTER VERTICAL LINEqMACRON
qACUTE ACCENTqGRAVE ACCENTqLOW VERTICAL LINEuMACRONuGRAVE ACCENTuACUTE ACCENTqTRIANGULAR COLON
qHALF TRIANGULAR COLONqCENTRED RIGHT HALF RINGyLEFT HALF RINGqUP TACKqDOWN TACKqPLUS SIGN
qMINUS SIGNaBREVEaDOT ABOVEaRING ABOVEaOGONEKaSMALL TILDEaDOUBLE ACUTE ACCENT
aMODIFIER LETTER RHOTIC HOOKqCROSS ACCENTqSMALL GAMMAwLwSwXwREVERSED GLOTTAL STOP
qEXTRA-HIGH TONE BARqHIGH TONE BARqMID TONE BARqLOW TONE BARqEXTRA-LOW TONE BAR
qYIN DEPARTING TONE MARKrANG DEPARTING TONE MARKqVOICINGqUNASPIRATEDqDOUBLE APOSTROPHE
qLOW DOWN ARROWHEADuUP ARROWHEADuLEFT ARROWHEADuRIGHT ARROWHEADwNGqMIDDLE GRAVE ACCENT
xDOUBLE GRAVE ACCENTεACUTE ACCENTqLOW TILDEqRAISED COLONqBEGIN HIGH TONEqEND HIGH TONE
qBEGIN LOW TONEqEND LOW TONEqSHELFqOPEN SHELFqLOW LEFT ARROWaCOMBINING GRAVE ACCENTkACUTE ACCENT
kCIRCUMFLEX ACCENTkTILDEkMACRONkOVERLINEkBREVEkDOT ABOVElIAERESISkHOOK ABOVEkRING ABOVE
kDOUBLE ACUTE ACCENTkCARONkVERTICAL LINE ABOVEkDOUBLE VERTICAL LINE ABOVErGRAVE ACCENT
kCANDRABINDUkINVERTED BREVEkTURNED COMMA ABOVEkCOMMA ABOVEkREVERSED COMMA ABOVEkCOMMA ABOVE RIGHT
kGRAVE ACCENT BELOWkACUTE ACCENT BELOWkLEFT TACK BELOWkRIGHT TACK BELOWkLEFT ANGLE ABOVEkHORN
kLEFT HALF RING BELOWkUP TACK BELOWkDOWN TACK BELOWkPLUS SIGN BELOWkMINUS SIGN BELOW
kPALATALIZED HOOK BELOWkRETROFLEX HOOK BELOWkDOT BELOWlIAERESIS BELOWkRING BELOWkCOMMA BELOW
lEDILLAkOGONEKkVERTICAL LINE BELOWkBRIDGE BELOWkINVERTED DOUBLE ARCH BELOWkCARON BELOW
lIRCUMFLEX ACCENT BELOWkBREVE BELOWkINVERTED BREVE BELOWkTILDE BELOWkMACRON BELOWkLOW LINE
kDOUBLE LOW LINEkTILDE OVERLAYkSHORT STROKE OVERLAYkLONG STROKE OVERLAYkSHORT SOLIDUS OVERLAY
kLONG SOLIDUS OVERLAYkRIGHT HALF RING BELOWkINVERTED BRIDGE BELOWkSQUARE BELOWlEAGULL BELOW
kX ABOVEkVERTICAL TILDEkDOUBLE OVERLINEkGRAVE TONE MARKkACUTE TONE MARKkGREEK PERISPOMENIqKORONIS
qDIALYTIKA TONOSqYPOGEGRAMMENIkBRIDGE ABOVEkEQUALS SIGN BELOWkDOUBLE VERTICAL LINE BELOW
kLEFT ANGLE BELOWkNOT TILDE ABOVEkHOMOTHETIC ABOVEkALMOST EQUAL TO ABOVEkLEFT RIGHT ARROW BELOW
kUPWARDS ARROW BELOWkGRAPHEME JOINERkRIGHT ARROWHEAD ABOVEkLEFT HALF RING ABOVEkFERMATAkX BELOW
kLEFT ARROWHEAD BELOWkRIGHT ARROWHEAD BELOWαAND UP ARROWHEAD BELOWqHALF RING ABOVE
kDOT ABOVE RIGHTkASTERISK BELOWkDOUBLE RING BELOWkZIGZAG ABOVEkDOUBLE BREVE BELOWwrMACRONx BELOW
rTILDErINVERTED BREVErRIGHTWARDS ARROW BELOWkLATIN SMALL LETTER AδEδIδOδUδCδDδHδMδRδTδVδX
aGREEK CAPITAL LETTER HETAgSMALL LETTER HETAgCAPITAL LETTER ARCHAIC SAMPI
gSMALL LETTER ARCHAIC SAMPIgNUMERAL SIGNgLOWER NUMERAL SIGNgCAPITAL LETTER PAMPHYLIAN DIGAMMA
gSMALL LETTER PAMPHYLIAN DIGAMMA"),
   (0x37A, "aGREEK YPOGEGRAMMENIgSMALL REVERSED LUNATE SIGMA SYMBOLmDOTTED LUNATE SIGMA SYMBOL
mREVERSED DOTTED LUNATE SIGMA SYMBOLgQUESTION MARKgCAPITAL LETTER YOT"),
   (0x384, "aGREEK TONOSgDIALYTIKA TONOSgCAPITAL LETTER ALPHA WITH TONOSgANO TELEIA
gCAPITAL LETTER EPSILON WITH TONOSwTA WITH TONOSvIOTA WITH TONOS"),
   (0x38C, "aGREEK CAPITAL LETTER OMICRON WITH TONOS"),
   (0x38E, "aGREEK CAPITAL LETTER UPSILON WITH TONOSvOMEGA WITH TONOS
gSMALL LETTER IOTA WITH DIALYTIKA AND TONOSgCAPITAL LETTER ALPHAvBETAvGAMMAvDELTAvEPSILONvZETA
vETAvTHETAvIOTAvKAPPAvLAMDAvMUvNUvXIvOMICRONvPIvRHO"),
   (0x3A3, "aGREEK CAPITAL LETTER SIGMAvTAUvUPSILONvPHIvCHIvPSIvOMEGAvIOTA WITH DIALYTIKA
vUPSILON WITH DIALYTIKAgSMALL LETTER ALPHA WITH TONOStEPSILON WITH TONOSuTA WITH TONOS
tIOTA WITH TONOStUPSILON WITH DIALYTIKA AND TONOStALPHAtBETAtGAMMAtDELTAtEPSILONtZETAtETAtTHETA
tIOTAtKAPPAtLAMDAtMUtNUtXItOMICRONtPItRHOtFINAL SIGMAtSIGMAtTAUtUPSILONtPHItCHItPSItOMEGA
tIOTA WITH DIALYTIKAtUPSILON WITH DIALYTIKAtOMICRON WITH TONOStUPSILON WITH TONOS
tOMEGA WITH TONOSgCAPITAL KAI SYMBOLgBETA SYMBOLgTHETA SYMBOLgUPSILON WITH HOOK SYMBOL
tACUTE AND HOOK SYMBOLtDIAERESIS AND HOOK SYMBOLgPHI SYMBOLhI SYMBOLgKAI SYMBOL
gLETTER ARCHAIC KOPPAgSMALL LETTER ARCHAIC KOPPAgLETTER STIGMAgSMALL LETTER STIGMAgLETTER DIGAMMA
gSMALL LETTER DIGAMMAgLETTER KOPPAgSMALL LETTER KOPPAgLETTER SAMPIgSMALL LETTER SAMPI
aCOPTIC CAPITAL LETTER SHEIhSMALL LETTER SHEIhCAPITAL LETTER FEIhSMALL LETTER FEI
hCAPITAL LETTER KHEIhSMALL LETTER KHEIhCAPITAL LETTER HORIhSMALL LETTER HORI
hCAPITAL LETTER GANGIAhSMALL LETTER GANGIAhCAPITAL LETTER SHIMAhSMALL LETTER SHIMA
hCAPITAL LETTER DEIhSMALL LETTER DEIaGREEK KAPPA SYMBOLgRHO SYMBOLgLUNATE SIGMA SYMBOLhETTER YOT
gCAPITAL THETA SYMBOLgLUNATE EPSILON SYMBOLgREVERSED LUNATE EPSILON SYMBOLgCAPITAL LETTER SHO
gSMALL LETTER SHOgCAPITAL LUNATE SIGMA SYMBOLpETTER SANgSMALL LETTER SANgRHO WITH STROKE SYMBOL
gCAPITAL REVERSED LUNATE SIGMA SYMBOLoDOTTED LUNATE SIGMA SYMBOL
oREVERSED DOTTED LUNATE SIGMA SYMBOLaCYRILLIC CAPITAL LETTER IE WITH GRAVEzOyDJEyGJEyUKRAINIAN IE
yDZEyBYELORUSSIAN-UKRAINIAN IyYIyJEyLJEyNJEyTSHEyKJEyI WITH GRAVEySHORT UyDZHEyAyBEyVEyGHEyDEyIE
yZHEzEyIySHORT IyKAyELzMzNyOyPEyERzSyTEyUyEFyHAyTSEyCHEySHAαCHAyHARD SIGNyYERUySOFT SIGNyEyYUzA
jSMALL LETTER AwBEwVEwGHEwDEwIEwZHExEwIwSHORT IwKAwELxMxNwOwPEwERxSwTEwUwEFwHAwTSEwCHEwSHAyCHA
wHARD SIGNwYERUwSOFT SIGNwEwYUxAwIE WITH GRAVExOwDJEwGJEwUKRAINIAN IEwDZE
wBYELORUSSIAN-UKRAINIAN IwYIwJEwLJEwNJEwTSHEwKJEwI WITH GRAVEwSHORT UwDZHEjCAPITAL LETTER OMEGA
jSMALL LETTER OMEGAjCAPITAL LETTER YATjSMALL LETTER YATjCAPITAL LETTER IOTIFIED E
jSMALL LETTER IOTIFIED EjCAPITAL LETTER LITTLE YUSjSMALL LETTER LITTLE YUS
jCAPITAL LETTER IOTIFIED LITTLE YUSjSMALL LETTER IOTIFIED LITTLE YUSjCAPITAL LETTER BIG YUS
jSMALL LETTER BIG YUSjCAPITAL LETTER IOTIFIED BIG YUSjSMALL LETTER IOTIFIED BIG YUS
jCAPITAL LETTER KSIjSMALL LETTER KSIjCAPITAL LETTER PSIjSMALL LETTER PSIjCAPITAL LETTER FITA
jSMALL LETTER FITAjCAPITAL LETTER IZHITSAjSMALL LETTER IZHITSA
jCAPITAL LETTER IZHITSA WITH DOUBLE GRAVE ACCENTjSMALL LETTER IZHITSA WITH DOUBLE GRAVE ACCENT
jCAPITAL LETTER UKjSMALL LETTER UKjCAPITAL LETTER ROUND OMEGAjSMALL LETTER ROUND OMEGA
jCAPITAL LETTER OMEGA WITH TITLOjSMALL LETTER OMEGA WITH TITLOjCAPITAL LETTER OTjSMALL LETTER OT
jCAPITAL LETTER KOPPAjSMALL LETTER KOPPAjTHOUSANDS SIGNbOMBINING CYRILLIC TITLOtPALATALIZATION
tDASIA PNEUMATAtPSILI PNEUMATAuOKRYTIEtHUNDRED THOUSANDS SIGNtMILLIONS SIGN
bYRILLIC CAPITAL LETTER SHORT I WITH TAILjSMALL LETTER SHORT I WITH TAIL
jCAPITAL LETTER SEMISOFT SIGNjSMALL LETTER SEMISOFT SIGNjCAPITAL LETTER ER WITH TICK
jSMALL LETTER ER WITH TICKjCAPITAL LETTER GHE WITH UPTURNjSMALL LETTER GHE WITH UPTURN
jCAPITAL LETTER GHE WITH STROKEjSMALL LETTER GHE WITH STROKEjCAPITAL LETTER GHE WITH MIDDLE HOOK
jSMALL LETTER GHE WITH MIDDLE HOOKjCAPITAL LETTER ZHE WITH DESCENDER
jSMALL LETTER ZHE WITH DESCENDERjCAPITAL LETTER ZE WITH DESCENDERjSMALL LETTER ZE WITH DESCENDER
jCAPITAL LETTER KA WITH DESCENDERjSMALL LETTER KA WITH DESCENDER
jCAPITAL LETTER KA WITH VERTICAL STROKEjSMALL LETTER KA WITH VERTICAL STROKE
jCAPITAL LETTER KA WITH STROKEjSMALL LETTER KA WITH STROKEjCAPITAL LETTER BASHKIR KA
jSMALL LETTER BASHKIR KAjCAPITAL LETTER EN WITH DESCENDERjSMALL LETTER EN WITH DESCENDER
jCAPITAL LIGATURE EN GHEjSMALL LIGATURE EN GHEjCAPITAL LETTER PE WITH MIDDLE HOOK
jSMALL LETTER PE WITH MIDDLE HOOKjCAPITAL LETTER ABKHASIAN HAjSMALL LETTER ABKHASIAN HA
jCAPITAL LETTER ES WITH DESCENDERjSMALL LETTER ES WITH DESCENDERjCAPITAL LETTER TE WITH DESCENDER
jSMALL LETTER TE WITH DESCENDERjCAPITAL LETTER STRAIGHT UjSMALL LETTER STRAIGHT U
jCAPITAL LETTER STRAIGHT U WITH STROKEjSMALL LETTER STRAIGHT U WITH STROKE
jCAPITAL LETTER HA WITH DESCENDERjSMALL LETTER HA WITH DESCENDERjCAPITAL LIGATURE TE TSE
jSMALL LIGATURE TE TSEjCAPITAL LETTER CHE WITH DESCENDERjSMALL LETTER CHE WITH DESCENDER
jCAPITAL LETTER CHE WITH VERTICAL STROKEjSMALL LETTER CHE WITH VERTICAL STROKE
jCAPITAL LETTER SHHAjSMALL LETTER SHHAjCAPITAL LETTER ABKHASIAN CHEjSMALL LETTER ABKHASIAN CHE
jCAPITAL LETTER ABKHASIAN CHE WITH DESCENDERjSMALL LETTER ABKHASIAN CHE WITH DESCENDER
jLETTER PALOCHKAjCAPITAL LETTER ZHE WITH BREVEjSMALL LETTER ZHE WITH BREVE
jCAPITAL LETTER KA WITH HOOKjSMALL LETTER KA WITH HOOKjCAPITAL LETTER EL WITH TAIL
jSMALL LETTER EL WITH TAILjCAPITAL LETTER EN WITH HOOKjSMALL LETTER EN WITH HOOK
jCAPITAL LETTER EN WITH TAILjSMALL LETTER EN WITH TAILjCAPITAL LETTER KHAKASSIAN CHE
jSMALL LETTER KHAKASSIAN CHEjCAPITAL LETTER EM WITH TAILjSMALL LETTER EM WITH TAILwPALOCHKA
jCAPITAL LETTER A WITH BREVEjSMALL LETTER A WITH BREVEjCAPITAL LETTER A WITH DIAERESIS
jSMALL LETTER A WITH DIAERESISjCAPITAL LIGATURE A IEjSMALL LIGATURE A IE
jCAPITAL LETTER IE WITH BREVEjSMALL LETTER IE WITH BREVEjCAPITAL LETTER SCHWAjSMALL LETTER SCHWA
jCAPITAL LETTER SCHWA WITH DIAERESISjSMALL LETTER SCHWA WITH DIAERESIS
jCAPITAL LETTER ZHE WITH DIAERESISjSMALL LETTER ZHE WITH DIAERESIS
jCAPITAL LETTER ZE WITH DIAERESISjSMALL LETTER ZE WITH DIAERESISjCAPITAL LETTER ABKHASIAN DZE
jSMALL LETTER ABKHASIAN DZEjCAPITAL LETTER I WITH MACRONjSMALL LETTER I WITH MACRON
jCAPITAL LETTER I WITH DIAERESISjSMALL LETTER I WITH DIAERESISjCAPITAL LETTER O WITH DIAERESIS
jSMALL LETTER O WITH DIAERESISjCAPITAL LETTER BARRED OjSMALL LETTER BARRED O
jCAPITAL LETTER BARRED O WITH DIAERESISjSMALL LETTER BARRED O WITH DIAERESIS
jCAPITAL LETTER E WITH DIAERESISjSMALL LETTER E WITH DIAERESISjCAPITAL LETTER U WITH MACRON
jSMALL LETTER U WITH MACRONjCAPITAL LETTER U WITH DIAERESISjSMALL LETTER U WITH DIAERESIS
jCAPITAL LETTER U WITH DOUBLE ACUTEjSMALL LETTER U WITH DOUBLE ACUTE
jCAPITAL LETTER CHE WITH DIAERESISjSMALL LETTER CHE WITH DIAERESIS
jCAPITAL LETTER GHE WITH DESCENDERjSMALL LETTER GHE WITH DESCENDER
jCAPITAL LETTER YERU WITH DIAERESISjSMALL LETTER YERU WITH DIAERESIS
jCAPITAL LETTER GHE WITH STROKE AND HOOKjSMALL LETTER GHE WITH STROKE AND HOOK
jCAPITAL LETTER HA WITH HOOKjSMALL LETTER HA WITH HOOKjCAPITAL LETTER HA WITH STROKE
jSMALL LETTER HA WITH STROKEjCAPITAL LETTER KOMI DEjSMALL LETTER KOMI DEjCAPITAL LETTER KOMI DJE
jSMALL LETTER KOMI DJEjCAPITAL LETTER KOMI ZJEjSMALL LETTER KOMI ZJEjCAPITAL LETTER KOMI DZJE
jSMALL LETTER KOMI DZJEjCAPITAL LETTER KOMI LJEjSMALL LETTER KOMI LJEjCAPITAL LETTER KOMI NJE
jSMALL LETTER KOMI NJEjCAPITAL LETTER KOMI SJEjSMALL LETTER KOMI SJEjCAPITAL LETTER KOMI TJE
jSMALL LETTER KOMI TJEjCAPITAL LETTER REVERSED ZEjSMALL LETTER REVERSED ZE
jCAPITAL LETTER EL WITH HOOKjSMALL LETTER EL WITH HOOKjCAPITAL LETTER LHAjSMALL LETTER LHA
jCAPITAL LETTER RHAjSMALL LETTER RHAjCAPITAL LETTER YAEjSMALL LETTER YAEjCAPITAL LETTER QA
jSMALL LETTER QAjCAPITAL LETTER WEjSMALL LETTER WEjCAPITAL LETTER ALEUT KAjSMALL LETTER ALEUT KA
jCAPITAL LETTER EL WITH MIDDLE HOOKjSMALL LETTER EL WITH MIDDLE HOOK
jCAPITAL LETTER EN WITH MIDDLE HOOKjSMALL LETTER EN WITH MIDDLE HOOK
jCAPITAL LETTER PE WITH DESCENDERjSMALL LETTER PE WITH DESCENDER
jCAPITAL LETTER SHHA WITH DESCENDERjSMALL LETTER SHHA WITH DESCENDER
jCAPITAL LETTER EN WITH LEFT HOOKjSMALL LETTER EN WITH LEFT HOOKjCAPITAL LETTER DZZHE
jSMALL LETTER DZZHEjCAPITAL LETTER DCHEjSMALL LETTER DCHEjCAPITAL LETTER EL WITH DESCENDER
jSMALL LETTER EL WITH DESCENDER"),
   (0x531, "aARMENIAN CAPITAL LETTER AYByBENyGIMyDAyECHyZAyEHzTyTOyZHEyINIyLIWNyXEHyCAyKENyHOyJA
yGHADyCHEHyMENyYIyNOWySHAyVOyCHAyPEHyJHEHyRAySEHyVEWyTIWNyREHyCOyYIWNyPIWRyKEHyOHyFEH"),
   (0x559, "aARMENIAN MODIFIER LETTER LEFT HALF RINGjAPOSTROPHEjEMPHASIS MARKkXCLAMATION MARK
jCOMMAjQUESTION MARKjABBREVIATION MARKjSMALL LETTER TURNED AYBwAYBwBENwGIMwDAwECHwZAwEHxTwTOwZHE
wINIwLIWNwXEHwCAwKENwHOwJAwGHADwCHEHwMENwYIwNOWwSHAwVOwCHAwPEHwJHEHwRAwSEHwVEWwTIWNwREHwCOwYIWN
wPIWRwKEHwOHwFEHqIGATURE ECH YIWNqETTER YI WITH STROKEjFULL STOPjHYPHEN"),
   (0x58D, "aRIGHT-FACING ARMENIAN ETERNITY SIGNaLEFT-FACING ARMENIAN ETERNITY SIGN
aARMENIAN DRAM SIGN"),
   (0x591, "aHEBREW ACCENT ETNAHTAoSEGOLpHALSHELEToZAQEF QATANuGADOLoTIPEHAoREVIAoZARQAoPASHTA
oYETIVoTEVIRoGERESHu MUQDAMrSHAYIMoQARNEY PARAoTELISHA GEDOLAoPAZERoATNAH HAFUKHoMUNAHpAHAPAKH
pERKHAu KEFULAoDARGAoQADMAoTELISHA QETANAoYERAH BEN YOMOoOLEoILUYoDEHIoZINORhMARK MASORA CIRCLE
hPOINT SHEVAnHATAF SEGOLtPATAHtQAMATSoIRIQnTSEREnSEGOLnPATAHnQAMATSnHOLAMs HASER FOR VAVnQUBUTS
nDAGESH OR MAPIQnMETEGiUNCTUATION MAQAFiOINT RAFEiUNCTUATION PASEQiOINT SHIN DOToIN DOT
iUNCTUATION SOF PASUQhMARK UPPER DOTmLOWER DOThPUNCTUATION NUN HAFUKHAiOINT QAMATS QATAN"),
   (0x5D0, "aHEBREW LETTER ALEFoBEToGIMELoDALEToHEoVAVoZAYINoHEToTEToYODoFINAL KAFoKAFoLAMED
oFINAL MEMoMEMoFINAL NUNoNUNoSAMEKHoAYINoFINAL PEoPEoFINAL TSADIoTSADIoQOFoRESHoSHINoTAV"),
   (0x5EF, "aHEBREW YOD TRIANGLEhLIGATURE YIDDISH DOUBLE VAVyVAV YODyDOUBLE YOD
hPUNCTUATION GERESHwSHAYIM"),
   (0x600, "aARABIC NUMBER SIGNhSIGN SANAHhFOOTNOTE MARKERhSIGN SAFHAoMVAThNUMBER MARK ABOVE
g-INDIC CUBE ROOTnFOURTH ROOTg RAYg-INDIC PER MILLE SIGNrTEN THOUSAND SIGNbFGHANI SIGN
bRABIC COMMAhDATE SEPARATORhPOETIC VERSE SIGNhSIGN MISRAmSALLALLAHOU ALAYHE WASSALLAM
mALAYHE ASSALLAMmRAHMATULLAH ALAYHEoDI ALLAHOU ANHUmTAKHALLUSiMALL HIGH TAH
sLIGATURE ALEF WITH LAM WITH YEHsZAINnFATHAnDAMMAnKASRAiEMICOLONhLETTER MARKhEND OF TEXT MARK
hTRIPLE DOT PUNCTUATION MARKhQUESTION MARKhLETTER KASHMIRI YEHoHAMZAoALEF WITH MADDA ABOVE
yHAMZA ABOVEoWAW WITH HAMZA ABOVEoALEF WITH HAMZA BELOWoYEH WITH HAMZA ABOVEoALEFoBEHoTEH MARBUTA
rpHEHoJEEMoHAHoKHAHoDALoTHALoREHoZAINoSEENpHEENpADoDADoTAHoZAHoAINoGHAIN
oKEHEH WITH TWO DOTS ABOVEαHREE DOTS BELOWoFARSI YEH WITH INVERTED VδTWO DOTS ABOVE
εHREE DOTS ABOVEhTATWEELhLETTER FEHoQAFoKAFoLAMoMEEMoNOONoHEHoWAWoALEF MAKSURAoYEHhFATHATAN
hDAMMATANhKASRATANhFATHAhDAMMAhKASRAhSHADDAiUKUNhMADDAH ABOVEhHAMZA ABOVEnBELOWhSUBSCRIPT ALEF
hINVERTED DAMMAhMARK NOON GHUNNAhZWARAKAYhVOWEL SIGN SMALL V ABOVEsINVERTED SMALL V ABOVE
sDOT BELOWhREVERSED DAMMAhFATHA WITH TWO DOTShWAVY HAMZA BELOWg-INDIC DIGIT ZEROtONEtTWOuHREE
tFOURuIVEtSIXuEVENtEIGHTtNINEg PERCENT SIGNhDECIMAL SEPARATORhTHOUSANDS SEPARATOR
hFIVE POINTED STARhLETTER DOTLESS BEHwQAFoSUPERSCRIPT ALEFoALEF WASLAuITH WAVY HAMZA ABOVEκBELOW
oHIGH HAMZAy ALEFzWAWoU WITH HAMZA ABOVEoHIGH HAMZA YEHoTTEHsEHoBEEHoTEH WITH RING
xTHREE DOTS ABOVE DOWNWARDSoPEHoTEHEHoBEHEHoHAH WITH HAMZA ABOVExTWO DOTS VERTICAL ABOVEoNYEH
oDYEHoHAH WITH THREE DOTS ABOVEoTCHEHtEHoDDALpAL WITH RINGxDOT BELOWη AND SMALL TAHqHALpDAHALpUL
pAL WITH THREE DOTS ABOVE DOWNWARDSxFOUR DOTS ABOVEoRREHpEH WITH SMALL VxRINGxDOT BELOW
xSMALL V BELOWxDOT BELOW AND DOT ABOVExTWO DOTS ABOVEoJEHoREH WITH FOUR DOTS ABOVE
oSEEN WITH DOT BELOW AND DOT ABOVEyTHREE DOTS BELOWο AND THREE DOTS ABOVEpAD WITH TWO DOTS BELOW
yHREE DOTS ABOVEoTAH WITH THREE DOTS ABOVEoAIN WITH THREE DOTS ABOVEoDOTLESS FEH
oFEH WITH DOT MOVED BELOWβBELOWoVEHoFEH WITH THREE DOTS BELOWoPEHEHoQAF WITH DOT ABOVE
xTHREE DOTS ABOVEoKEHEHoSWASH KAFoKAF WITH RINGxDOT ABOVEoNGoKAF WITH THREE DOTS BELOWoGAF
r WITH RINGoNGOEHoGAF WITH TWO DOTS BELOWpUEHpAF WITH THREE DOTS ABOVEoLAM WITH SMALL VxDOT ABOVE
xTHREE DOTS ABOVEιBELOWoNOON WITH DOT BELOWtGHUNNAoRNOONoNOON WITH RINGyTHREE DOTS ABOVE
oHEH DOACHASHMEEoTCHEH WITH DOT ABOVEoHEH WITH YEH ABOVEsGOALw WITH HAMZA ABOVEoTEH MARBUTA GOAL
oWAW WITH RINGoKIRGHIZ OEoOEoUoYUoKIRGHIZ YUoWAW WITH TWO DOTS ABOVEoVEoFARSI YEHoYEH WITH TAIL
xSMALL VoWAW WITH DOT ABOVEoEoYEH WITH THREE DOTS BELOWsBARREEy WITH HAMZA ABOVEhFULL STOP
hLETTER AEhSMALL HIGH LIGATURE SAD WITH LAM WITH ALEF MAKSURAβQAF WITH LAM WITH ALEF MAKSURA
sMEEM INITIAL FORMsLAM ALEFsJEEMsTHREE DOTSsSEENhEND OF AYAHhSTART OF RUB EL HIZB
iMALL HIGH ROUNDED ZEROsUPRIGHT RECTANGULAR ZEROsDOTLESS HEAD OF KHAHsMEEM ISOLATED FORMnLOW SEEN
nHIGH MADDAnWAWnYEHnHIGH YEHsNOONhPLACE OF SAJDAHhEMPTY CENTRE LOW STOPuHIGH STOP
hROUNDED HIGH STOP WITH FILLED CENTREhSMALL LOW MEEMhLETTER DAL WITH INVERTED V
oREH WITH INVERTED VaEXTENDED ARABIC-INDIC DIGIT ZEROγONEγTWOδHREEγFOURδIVEγSIXδEVENγEIGHTγNINE
aARABIC LETTER SHEEN WITH DOT BELOWoDAD WITH DOT BELOWoGHAIN WITH DOT BELOWhSIGN SINDHI AMPERSAND
tPOSTPOSITION MENhLETTER HEH WITH INVERTED VaSYRIAC END OF PARAGRAPHhSUPRALINEAR FULL STOP
jBLINEAR FULL STOPjPRALINEAR COLONjBLINEAR COLONhHORIZONTAL COLONhCOLON SKEWED LEFTuRIGHT
hSUPRALINEAR COLON SKEWED LEFTjBLINEAR COLON SKEWED RIGHThCONTRACTIONhHARKLEAN OBELUSqMETOBELUS
qASTERISCUS"),
   (0x70F, "aSYRIAC ABBREVIATION MARKhLETTER ALAPHoSUPERSCRIPT ALAPHoBETHoGAMALt GARSHUNIoDALATH
pOTLESS DALATH RISHoHEoWAWoZAINoHETHoTETHs GARSHUNIoYUDHs HEoKAPHoLAMADHoMIMoNUNoSEMKATH
oFINAL SEMKATHoEoPEoREVERSED PEoSADHEoQAPHoRISHoSHINoTAWoPERSIAN BHETHwGHAMALwDHALATH
hPTHAHA ABOVEoBELOWoDOTTEDhZQAPHA ABOVEoBELOWoDOTTEDhRBASA ABOVEnBELOWhDOTTED ZLAMA HORIZONTAL
uANGULARhHBASA ABOVEnBELOWm-ESASA DOTTEDhESASA ABOVEnBELOWhRWAHAhFEMININE DOThQUSHSHAYAhRUKKAKHA
hTWO VERTICAL DOTS ABOVEzBELOWiHREE DOTS ABOVEsBELOWhOBLIQUE LINE ABOVEuBELOWhMUSIChBARREKH"),
   (0x74D, "aSYRIAC LETTER SOGDIAN ZHAINwKHAPHwFE
aARABIC LETTER BEH WITH THREE DOTS HORIZONTALLY BELOWxDOT BELOW AND THREE DOTS ABOVE
xTHREE DOTS POINTING UPWARDS BELOWω BELOW AND TWO DOTS ABOVEyWO DOTS BELOW AND DOT ABOVE
xINVERTED SMALL V BELOWxSMALL VoHAH WITH TWO DOTS ABOVEyHREE DOTS POINTING UPWARDS BELOW
oDAL WITH TWO DOTS VERTICALLY BELOW AND SMALL TAHxINVERTED SMALL V BELOWoREH WITH STROKE
oSEEN WITH FOUR DOTS ABOVEoAIN WITH TWO DOTS ABOVEyHREE DOTS POINTING DOWNWARDS ABOVE
yWO DOTS VERTICALLY ABOVEoFEH WITH TWO DOTS BELOWyHREE DOTS POINTING UPWARDS BELOW
oKEHEH WITH DOT ABOVEzTHREE DOTS ABOVEλPOINTING UPWARDS BELOWoMEEM WITH DOT ABOVEγBELOW
oNOON WITH TWO DOTS BELOWySMALL TAHεVoLAM WITH BARoREH WITH TWO DOTS VERTICALLY ABOVExHAMZA ABOVE
oSEEN WITH TWO DOTS VERTICALLY ABOVEoHAH WITH SMALL ARABIC LETTER TAH BELOWφAND TWO DOTS
oSEEN WITH SMALL ARABIC LETTER TAH AND TWO DOTSoREH WITH SMALL ARABIC LETTER TAH AND TWO DOTS
oHAH WITH SMALL ARABIC LETTER TAH ABOVEoALEF WITH EXTENDED ARABIC-INDIC DIGIT TWO ABOVE
ωT THREE ABOVEoFARSI YEH WITH EXTENDED ARABIC-INDIC DIGIT TWO ABOVEω DIGIT THREE ABOVE
ω DIGIT FOUR BELOWoWAW WITH EXTENDED ARABIC-INDIC DIGIT TWO ABOVEω THREE ABOVE
oYEH BARREE WITH EXTENDED ARABIC-INDIC DIGIT TWO ABOVEωC DIGIT THREE ABOVE
oHAH WITH EXTENDED ARABIC-INDIC DIGIT FOUR BELOWoSEEN WITH EXTENDED ARABIC-INDIC DIGIT FOUR ABOVE
yINVERTED VoKAF WITH TWO DOTS ABOVEaTHAANA LETTER HAAoSHAVIYANIoNOONUoRAAoBAAoLHAVIYANIoKAAFU
oALIFUoVAAVUoMEEMUoFAAFUoDHAALUoTHAAoLAAMUoGAAFUpNAVIYANIoSEENUoDAVIYANIoZAVIYANIoTAVIYANIoYAA
oPAVIYANIoJAVIYANIoCHAVIYANIoTTAAoHHAAoKHAAoTHAALUoZAAoSHEENUpAADHUoDAADHUoTOoZOoAINUoGHAINU
oQAAFUoWAAVUhABAFILIiABAAFILIhIBIFILIhEEBEEFILIhUBUFILIhOOBOOFILIhEBEFILIiYBEYFILIhOBOFILI
iABOAFILIhSUKUNhLETTER NAA"),
   (0x7C0, "aNKO DIGIT ZEROkONEkTWOlHREEkFOURlIVEkSIXlEVENkEIGHTkNINEeLETTER AlEElIlElUlOOm
lDAGBASINNAlNlBAlPAlTAlJAlCHAlDAlRAmRAlSAlGBAlFAlKAlLAlNA WOLOSOlMAlNYAmAlHAlWAlYAlNYA WOLOSO
lJONA JAqCHAqRAeCOMBINING SHORT HIGH TONEuLOW TONEuRISING TONEoLONG DESCENDING TONEtHIGH TONE
tLOW TONEtRISING TONEoNASALIZATION MARKoDOUBLE DOT ABOVEeHIGH TONE APOSTROPHEeLOW TONE APOSTROPHE
eSYMBOL OO DENNENlGBAKURUNENeCOMMAeEXCLAMATION MARKeLAJANYALAN"),
   (0x7FD, "aNKO DANTAYALANfOROME SIGNeTAMAN SIGNaSAMARITAN LETTER ALAFrBITrGAMANrDALATrIYrBAA
rZENrITrTITrYUTrKAAFrLABATrMIMrNUNrSINGAATrINrFIrTSAADIYrQUFrRISHrSHANrTAAFkMARK INr-ALAF
pOCCLUSIONpDAGESHlODIFIER LETTER EPENTHETIC YUTlARK EPENTHETIC YUTkVOWEL SIGN LONG EvE
vOVERLONG AAvLONG AAvAAvOVERLONG AvLONG AvAkMODIFIER LETTER SHORT AkVOWEL SIGN SHORT AvLONG UvU
kMODIFIER LETTER IkVOWEL SIGN LONG IvIvOvSUKUNkMARK NEQUDAA"),
   (0x830, "aSAMARITAN PUNCTUATION NEQUDAAwAFSAAQxNGEDwBAUwATMAAUwSHIYYAALAAkABBREVIATION MARK
kPUNCTUATION MELODIC QITSAwZIQAAwQITSAwZAEFwTURUwARKAANUwSOF MASHFAATwANNAAU"),
   (0x840, "aMANDAIC LETTER HALQApABqGqDqHpUSHENNApAZpITpATTqKSArqLqMqNqSpINpAPqSZqQqRqSHqT
pDUSHENNApKADpAINiAFFRICATION MARKiVOCALIZATION MARKiGEMINATION MARK"),
   (0x85E, "aMANDAIC PUNCTUATION"),
   (0x860, "aSYRIAC LETTER MALAYALAM NGAyJAyNYAyTTAyNNAαNAyBHAyRAyLLAαLAySSA"),
   (0x870, "aARABIC LETTER ALEF WITH ATTACHED FATHAθTOP RIGHT FATHAyRIGHT MIDDLE STROKE
yLEFT MIDDLE STROKEyATTACHED KASRAθBOTTOM RIGHT KASRAθROUND DOT ABOVEιIGHT ROUND DOT
θLEFT ROUND DOTθROUND DOT BELOWyDOT ABOVEyATTACHED TOP RIGHT FATHA AND DOT ABOVE
yRIGHT MIDDLE STROKE AND DOT ABOVEyATTACHED BOTTOM RIGHT KASRA AND DOT ABOVE
θTOP RIGHT FATHA AND LEFT RINGyRIGHT MIDDLE STROKE AND LEFT RING
yATTACHED BOTTOM RIGHT KASRA AND LEFT RINGθRIGHT HAMZAθLEFT HAMZAhTATWEEL WITH OVERSTRUCK HAMZA
ζWAWuTWO DOTS BELOWhLETTER THIN YEHhBASELINE ROUND DOThRAISED ROUND DOT
hLETTER NOON WITH INVERTED SMALL VoHAH WITH INVERTED SMALL V BELOWoTAH WITH DOT BELOW
xTHREE DOTS BELOWoKEHEH WITH TWO DOTS VERTICALLY BELOWhVERTICAL TAIL"),
   (0x890, "aARABIC POUND MARK ABOVEiIASTRE MARK ABOVE"),
   (0x898, "aARABIC SMALL HIGH WORD AL-JUZnLOW WORD ISHMAAMxMAALAwTASHEELhMADDA WAAJIB
hSUPERSCRIPT ALEF MOKHASSAShDOUBLED MADDAhHALF MADDA OVER MADDAhLETTER BEH WITH SMALL V BELOW
xHAMZA ABOVEoJEEM WITH TWO DOTS ABOVEoTAH WITH TWO DOTS ABOVE
oFEH WITH DOT BELOW AND THREE DOTS ABOVEoQAF WITH DOT BELOWoLAM WITH DOUBLE BAR
oMEEM WITH THREE DOTS ABOVEoYEH WITH TWO DOTS BELOW AND HAMZA ABOVEρDOT ABOVEoREH WITH LOOP
oWAW WITH DOT WITHINoROHINGYA YEHoLOW ALEFoDAL WITH THREE DOTS BELOWoSAD WITH THREE DOTS BELOW
oGAF WITH INVERTED STROKEoSTRAIGHT WAWoZAIN WITH INVERTED V ABOVEoAIN WITH THREE DOTS BELOW
oKAF WITH DOT BELOWoQAF WITH DOT BELOW AND NO DOTS ABOVEoBEH WITH SMALL MEEM ABOVE
oPEH WITH SMALL MEEM ABOVEoTEH WITH SMALL TEH ABOVEoREH WITH SMALL NOON ABOVE
oYEH WITH TWO DOTS BELOW AND SMALL NOON ABOVEoAFRICAN FEHwQAFwNOONoPEH WITH SMALL V
oTEH WITH SMALL VpTEH WITH SMALL VpCHEH WITH SMALL VoKEHEH WITH SMALL V
oGHAIN WITH THREE DOTS ABOVEoAFRICAN QAF WITH THREE DOTS ABOVEoJEEM WITH THREE DOTS ABOVEκBELOW
oLAM WITH SMALL ARABIC LETTER TAH ABOVEoGRAFhSMALL FARSI YEHnHIGH FARSI YEH
sYEH BARREE WITH TWO DOTS BELOWsWORD SAHsZAHhLARGE ROUND DOT ABOVExBELOWhSUKUN BELOW
hLARGE CIRCLE BELOWnROUND DOT INSIDE CIRCLE BELOWhSMALL LOW WAWnHIGH WORD AR-RUBsSADsAINsQAF
sNOON WITH KASRAnLOW NOON WITH KASRAnHIGH WORD ATH-THALATHAyS-SAJDAyN-NISFxSAKTAxQIFxWAQFA
sFOOTNOTE MARKERsSIGN SAFHAhDISPUTED END OF AYAHhTURNED DAMMA BELOWhCURLY FATHAnDAMMAnKASRA
nFATHATANnDAMMATANnKASRATANhTONE ONE DOT ABOVEmTWO DOTS ABOVEmLOOP ABOVEmONE DOT BELOW
mTWO DOTS BELOWmLOOP BELOWhOPEN FATHATANmDAMMATANmKASRATANhSMALL HIGH WAWhFATHA WITH RING
sDOT ABOVEhKASRA WITH DOT BELOWhLEFT ARROWHEAD ABOVEhRIGHT ARROWHEAD ABOVEhLEFT ARROWHEAD BELOW
hRIGHT ARROWHEAD BELOWhDOUBLE RIGHT ARROWHEAD ABOVEκ WITH DOThRIGHT ARROWHEAD ABOVE WITH DOT
hDAMMA WITH DOThMARK SIDEWAYS NOON GHUNNAaDEVANAGARI SIGN INVERTED CANDRABINDUqCANDRABINDU
qANUSVARAqVISARGAlLETTER SHORT AsAtAsItIsUtUsVOCALIC RαLsCANDRA EsSHORT EsEsAIsCANDRA OsSHORT OsO
sAUsKAtHAsGAtHAsNGAsCAtHAsJAtHAsNYAsTTAuHAsDDAuHAsNNAsTAtHAsDAtHAsNAtNNAsPAtHAsBAtHAsMAsYAsRAtRA
sLAtLAuLAsVAsSHAtSAtAsHAlVOWEL SIGN OExOElSIGN NUKTAqAVAGRAHAlVOWEL SIGN AAwIxIwUxUwVOCALIC RζR
wCANDRA EwSHORT EwEwAIwCANDRA OwSHORT OwOwAUlSIGN VIRAMAlVOWEL SIGN PRISHTHAMATRA EwAWlOM
lSTRESS SIGN UDATTAxANUDATTAlGRAVE ACCENTlACUTE ACCENTlVOWEL SIGN CANDRA LONG EwUExUElLETTER QA
sKHHAsGHHAsZAsDDDHAsRHAsFAsYYAsVOCALIC RRαLLlVOWEL SIGN VOCALIC LζLlDANDAmOUBLE DANDAmIGIT ZERO
rONErTWOsHREErFOURsIVErSIXsEVENrEIGHTrNINElABBREVIATION SIGNlSIGN HIGH SPACING DOT
lLETTER CANDRA AsOEtOEsAWsUEtUEsMARWARI DDAsZHAsHEAVY YAsGGAsJJAsGLOTTAL STOPsDDDAsBBA
aBENGALI ANJIiSIGN CANDRABINDUnANUSVARAnVISARGA"),
   (0x985, "aBENGALI LETTER AqApIqIpUqUpVOCALIC RxL"),
   (0x98F, "aBENGALI LETTER EpAI"),
   (0x993, "aBENGALI LETTER OpAUpKAqHApGAqHApNGApCAqHApJAqHApNYApTTArHApDDArHApNNApTAqHApDAqHApNA"),
   (0x9AA, "aBENGALI LETTER PAqHApBAqHApMApYApRA"),
   (0x9B2, "aBENGALI LETTER LA"),
   (0x9B6, "aBENGALI LETTER SHAqSAqApHA"),
   (0x9BC, "aBENGALI SIGN NUKTAnAVAGRAHAiVOWEL SIGN AAtIuItUuUtVOCALIC RγR"),
   (0x9C7, "aBENGALI VOWEL SIGN EtAI"),
   (0x9CB, "aBENGALI VOWEL SIGN OtAUiSIGN VIRAMAiLETTER KHANDA TA"),
   (0x9D7, "aBENGALI AU LENGTH MARK"),
   (0x9DC, "aBENGALI LETTER RRAqHA"),
   (0x9DF, "aBENGALI LETTER YYApVOCALIC RRxLLiVOWEL SIGN VOCALIC LγL"),
   (0x9E6, "aBENGALI DIGIT ZEROoONEoTWOpHREEoFOURpIVEoSIXpEVENoEIGHToNINE
iLETTER RA WITH MIDDLE DIAGONALxLOWER DIAGONALiRUPEE MARKoSIGNiCURRENCY NUMERATOR ONEβTWOγHREE
βFOURβONE LESS THAN THE DENOMINATORrDENOMINATOR SIXTEENiISSHARiGANDA MARKiLETTER VEDIC ANUSVARA
iABBREVIATION SIGNiSANDHI MARK"),
   (0xA01, "aGURMUKHI SIGN ADAK BINDIoBINDIoVISARGA"),
   (0xA05, "aGURMUKHI LETTER ArAqIrIqUrU"),
   (0xA0F, "aGURMUKHI LETTER EEqAI"),
   (0xA13, "aGURMUKHI LETTER OOqAUqKArHAqGArHAqNGAqCArHAqJArHAqNYAqTTAsHAqDDAsHAqNNAqTArHAqDArHA
qNA"),
   (0xA2A, "aGURMUKHI LETTER PArHAqBArHAqMAqYAqRA"),
   (0xA32, "aGURMUKHI LETTER LArLA"),
   (0xA35, "aGURMUKHI LETTER VAqSHA"),
   (0xA38, "aGURMUKHI LETTER SAqHA"),
   (0xA3C, "aGURMUKHI SIGN NUKTA"),
   (0xA3E, "aGURMUKHI VOWEL SIGN AAuIvIuUvU"),
   (0xA47, "aGURMUKHI VOWEL SIGN EEuAI"),
   (0xA4B, "aGURMUKHI VOWEL SIGN OOuAUjSIGN VIRAMA"),
   (0xA51, "aGURMUKHI SIGN UDAAT"),
   (0xA59, "aGURMUKHI LETTER KHHAqGHHAqZAqRRA"),
   (0xA5E, "aGURMUKHI LETTER FA"),
   (0xA66, "aGURMUKHI DIGIT ZEROpONEpTWOqHREEpFOURqIVEpSIXqEVENpEIGHTpNINEjTIPPIjADDAKjIRIjURA
jEK ONKARjSIGN YAKASHjABBREVIATION SIGN"),
   (0xA81, "aGUJARATI SIGN CANDRABINDUoANUSVARAoVISARGA"),
   (0xA85, "aGUJARATI LETTER ArAqIrIqUrUqVOCALIC RyLjVOWEL CANDRA E"),
   (0xA8F, "aGUJARATI LETTER EqAIjVOWEL CANDRA O"),
   (0xA93, "aGUJARATI LETTER OqAUqKArHAqGArHAqNGAqCArHAqJArHAqNYAqTTAsHAqDDAsHAqNNAqTArHAqDArHA
qNA"),
   (0xAAA, "aGUJARATI LETTER PArHAqBArHAqMAqYAqRA"),
   (0xAB2, "aGUJARATI LETTER LArLA"),
   (0xAB5, "aGUJARATI LETTER VAqSHArSArAqHA"),
   (0xABC, "aGUJARATI SIGN NUKTAoAVAGRAHAjVOWEL SIGN AAuIvIuUvUuVOCALIC RδRuCANDRA E"),
   (0xAC7, "aGUJARATI VOWEL SIGN EuAIuCANDRA O"),
   (0xACB, "aGUJARATI VOWEL SIGN OuAUjSIGN VIRAMA"),
   (0xAD0, "aGUJARATI OM"),
   (0xAE0, "aGUJARATI LETTER VOCALIC RRyLLjVOWEL SIGN VOCALIC LδL"),
   (0xAE6, "aGUJARATI DIGIT ZEROpONEpTWOqHREEpFOURqIVEpSIXqEVENpEIGHTpNINEjABBREVIATION SIGN
jRUPEE SIGN"),
   (0xAF9, "aGUJARATI LETTER ZHAjSIGN SUKUNpHADDAoMADDAHoTHREE-DOT NUKTA ABOVEoCIRCLE NUKTA ABOVE
oTWO-CIRCLE NUKTA ABOVE"),
   (0xB01, "aORIYA SIGN CANDRABINDUlANUSVARAlVISARGA"),
   (0xB05, "aORIYA LETTER AoAnIoInUoUnVOCALIC RvL"),
   (0xB0F, "aORIYA LETTER EnAI"),
   (0xB13, "aORIYA LETTER OnAUnKAoHAnGAoHAnNGAnCAoHAnJAoHAnNYAnTTApHAnDDApHAnNNAnTAoHAnDAoHAnNA"),
   (0xB2A, "aORIYA LETTER PAoHAnBAoHAnMAnYAnRA"),
   (0xB32, "aORIYA LETTER LAoLA"),
   (0xB35, "aORIYA LETTER VAnSHAoSAoAnHA"),
   (0xB3C, "aORIYA SIGN NUKTAlAVAGRAHAgVOWEL SIGN AArIsIrUsUrVOCALIC RαR"),
   (0xB47, "aORIYA VOWEL SIGN ErAI"),
   (0xB4B, "aORIYA VOWEL SIGN OrAUgSIGN VIRAMA"),
   (0xB55, "aORIYA SIGN OVERLINEgAI LENGTH MARKhU LENGTH MARK"),
   (0xB5C, "aORIYA LETTER RRAoHA"),
   (0xB5F, "aORIYA LETTER YYAnVOCALIC RRvLLgVOWEL SIGN VOCALIC LαL"),
   (0xB66, "aORIYA DIGIT ZEROmONEmTWOnHREEmFOURnIVEmSIXnEVENmEIGHTmNINEgISSHARgLETTER WA
gFRACTION ONE QUARTERtHALFpTHREE QUARTERSpONE SIXTEENTHtEIGHTHpTHREE SIXTEENTHS"),
   (0xB82, "aTAMIL SIGN ANUSVARAlVISARGA"),
   (0xB85, "aTAMIL LETTER AoAnIoInUoU"),
   (0xB8E, "aTAMIL LETTER EoEnAI"),
   (0xB92, "aTAMIL LETTER OoOnAUnKA"),
   (0xB99, "aTAMIL LETTER NGAnCA"),
   (0xB9C, "aTAMIL LETTER JA"),
   (0xB9E, "aTAMIL LETTER NYAnTTA"),
   (0xBA3, "aTAMIL LETTER NNAnTA"),
   (0xBA8, "aTAMIL LETTER NAoNNAnPA"),
   (0xBAE, "aTAMIL LETTER MAnYAnRAoRAnLAoLApLAnVAnSHAoSAoAnHA"),
   (0xBBE, "aTAMIL VOWEL SIGN AArIsIrUsU"),
   (0xBC6, "aTAMIL VOWEL SIGN EsErAI"),
   (0xBCA, "aTAMIL VOWEL SIGN OsOrAUgSIGN VIRAMA"),
   (0xBD0, "aTAMIL OM"),
   (0xBD7, "aTAMIL AU LENGTH MARK"),
   (0xBE6, "aTAMIL DIGIT ZEROmONEmTWOnHREEmFOURnIVEmSIXnEVENmEIGHTmNINEgNUMBER TENnONE HUNDRED
rTHOUSANDgDAY SIGNgMONTH SIGNgYEAR SIGNgDEBIT SIGNgCREDIT SIGNgAS ABOVE SIGNgRUPEE SIGN
gNUMBER SIGN"),
   (0xC00, "aTELUGU SIGN COMBINING CANDRABINDU ABOVEnANDRABINDUmANUSVARAmVISARGA
mCOMBINING ANUSVARA ABOVEhLETTER ApAoIpIoUpUoVOCALIC RwL"),
   (0xC0E, "aTELUGU LETTER EpEoAI"),
   (0xC12, "aTELUGU LETTER OpOoAUoKApHAoGApHAoNGAoCApHAoJApHAoNYAoTTAqHAoDDAqHAoNNAoTApHAoDApHA
oNA"),
   (0xC2A, "aTELUGU LETTER PApHAoBApHAoMAoYAoRApRAoLApLAqLAoVAoSHApSApAoHA"),
   (0xC3C, "aTELUGU SIGN NUKTAmAVAGRAHAhVOWEL SIGN AAsItIsUtUsVOCALIC RβR"),
   (0xC46, "aTELUGU VOWEL SIGN EtEsAI"),
   (0xC4A, "aTELUGU VOWEL SIGN OtOsAUhSIGN VIRAMA"),
   (0xC55, "aTELUGU LENGTH MARKhAI LENGTH MARK"),
   (0xC58, "aTELUGU LETTER TSAoDZAoRRRA"),
   (0xC5D, "aTELUGU LETTER NAKAARA POLLU"),
   (0xC60, "aTELUGU LETTER VOCALIC RRwLLhVOWEL SIGN VOCALIC LβL"),
   (0xC66, "aTELUGU DIGIT ZEROnONEnTWOoHREEnFOURoIVEnSIXoEVENnEIGHTnNINE"),
   (0xC77, "aTELUGU SIGN SIDDHAMhFRACTION DIGIT ZERO FOR ODD POWERS OF FOUR
wONE FOR ODD POWERS OF FOURwTWO FOR ODD POWERS OF FOURxHREE FOR ODD POWERS OF FOUR
wONE FOR EVEN POWERS OF FOURwTWO FOR EVEN POWERS OF FOURxHREE FOR EVEN POWERS OF FOURhSIGN TUUMU
aKANNADA SIGN SPACING CANDRABINDUnCANDRABINDUnANUSVARAnVISARGAnSIDDHAMiLETTER AqApIqIpUqU
pVOCALIC RxL"),
   (0xC8E, "aKANNADA LETTER EqEpAI"),
   (0xC92, "aKANNADA LETTER OqOpAUpKAqHApGAqHApNGApCAqHApJAqHApNYApTTArHApDDArHApNNApTAqHApDAqHA
pNA"),
   (0xCAA, "aKANNADA LETTER PAqHApBAqHApMApYApRAqRApLAqLA"),
   (0xCB5, "aKANNADA LETTER VApSHAqSAqApHA"),
   (0xCBC, "aKANNADA SIGN NUKTAnAVAGRAHAiVOWEL SIGN AAtIuItUuUtVOCALIC RγR"),
   (0xCC6, "aKANNADA VOWEL SIGN EuEtAI"),
   (0xCCA, "aKANNADA VOWEL SIGN OuOtAUiSIGN VIRAMA"),
   (0xCD5, "aKANNADA LENGTH MARKiAI LENGTH MARK"),
   (0xCDD, "aKANNADA LETTER NAKAARA POLLUpFA"),
   (0xCE0, "aKANNADA LETTER VOCALIC RRxLLiVOWEL SIGN VOCALIC LγL"),
   (0xCE6, "aKANNADA DIGIT ZEROoONEoTWOpHREEoFOURpIVEoSIXpEVENoEIGHToNINE"),
   (0xCF1, "aKANNADA SIGN JIHVAMULIYAnUPADHMANIYA"),
   (0xD00, "aMALAYALAM SIGN COMBINING ANUSVARA ABOVEqANDRABINDUpANUSVARApVISARGA
kLETTER VEDIC ANUSVARArAsArIsIrUsUrVOCALIC RzL"),
   (0xD0E, "aMALAYALAM LETTER EsErAI"),
   (0xD12, "aMALAYALAM LETTER OsOrAUrKAsHArGAsHArNGArCAsHArJAsHArNYArTTAtHArDDAtHArNNArTAsHArDA
sHArNAsNNArPAsHArBAsHArMArYArRAsRArLAsLAtLArVArSHAsSAsArHArTTTAkSIGN VERTICAL BAR VIRAMA
pCIRCULAR VIRAMApAVAGRAHAkVOWEL SIGN AAvIwIvUwUvVOCALIC RεR"),
   (0xD46, "aMALAYALAM VOWEL SIGN EwEvAI"),
   (0xD4A, "aMALAYALAM VOWEL SIGN OwOvAUkSIGN VIRAMAkLETTER DOT REPHkSIGN PARA"),
   (0xD54, "aMALAYALAM LETTER CHILLU MyYyLLLkAU LENGTH MARKkFRACTION ONE ONE-HUNDRED-AND-SIXTIETH
xFORTIETHtTHREE EIGHTIETHStONE TWENTIETHyENTHtTHREE TWENTIETHStONE FIFTHkLETTER ARCHAIC II
rVOCALIC RRzLLkVOWEL SIGN VOCALIC LεL"),
   (0xD66, "aMALAYALAM DIGIT ZEROqONEqTWOrHREEqFOURrIVEqSIXrEVENqEIGHTqNINEkNUMBER TEN
rONE HUNDREDvTHOUSANDkFRACTION ONE QUARTERxHALFtTHREE QUARTERStONE SIXTEENTHxEIGHTH
tTHREE SIXTEENTHSkDATE MARKkLETTER CHILLU NNzyRRyLzLyK"),
   (0xD81, "aSINHALA SIGN CANDRABINDUnANUSVARAYAnVISARGAYA"),
   (0xD85, "aSINHALA LETTER AYANNAqAYANNAqEYANNArEYANNApIYANNAqIYANNApUYANNAqUYANNApIRUYANNA
sUYANNAqLUYANNAsUYANNApEYANNAqEYANNApAIYANNApOYANNAqOYANNApAUYANNA"),
   (0xD9A, "aSINHALA LETTER ALPAPRAANA KAYANNApMAHAAPRAANA KAYANNApALPAPRAANA GAYANNA
pMAHAAPRAANA GAYANNApKANTAJA NAASIKYAYApSANYAKA GAYANNApALPAPRAANA CAYANNApMAHAAPRAANA CAYANNA
pALPAPRAANA JAYANNApMAHAAPRAANA JAYANNApTAALUJA NAASIKYAYAxSANYOOGA NAAKSIKYAYApSANYAKA JAYANNA
pALPAPRAANA TTAYANNApMAHAAPRAANA TTAYANNApALPAPRAANA DDAYANNApMAHAAPRAANA DDAYANNA
qUURDHAJA NAYANNApSANYAKA DDAYANNApALPAPRAANA TAYANNApMAHAAPRAANA TAYANNApALPAPRAANA DAYANNA
pMAHAAPRAANA DAYANNApDANTAJA NAYANNA"),
   (0xDB3, "aSINHALA LETTER SANYAKA DAYANNApALPAPRAANA PAYANNApMAHAAPRAANA PAYANNA
pALPAPRAANA BAYANNApMAHAAPRAANA BAYANNArYANNApAMBA BAYANNApYAYANNApRAYANNA"),
   (0xDBD, "aSINHALA LETTER DANTAJA LAYANNA"),
   (0xDC0, "aSINHALA LETTER VAYANNApTAALUJA SAYANNApMUURDHAJA SAYANNApDANTAJA SAYANNApHAYANNA
pMUURDHAJA LAYANNApFAYANNA"),
   (0xDCA, "aSINHALA SIGN AL-LAKUNA"),
   (0xDCF, "aSINHALA VOWEL SIGN AELA-PILLAtKETTI AEDA-PILLAtDIGA AEDA-PILLAtKETTI IS-PILLA
tDIGA IS-PILLAtKETTI PAA-PILLA"),
   (0xDD6, "aSINHALA VOWEL SIGN DIGA PAA-PILLA"),
   (0xDD8, "aSINHALA VOWEL SIGN GAETTA-PILLAtKOMBUVAtDIGA KOMBUVAtKOMBU DEKAyVA HAA AELA-PILLA
ζDIGA AELA-PILLAζGAYANUKITTAtGAYANUKITTA"),
   (0xDE6, "aSINHALA LITH DIGIT ZEROtONEtTWOuHREEtFOURuIVEtSIXuEVENtEIGHTtNINE"),
   (0xDF2, "aSINHALA VOWEL SIGN DIGA GAETTA-PILLAαYANUKITTAiPUNCTUATION KUNDDALIYA"),
   (0xE01, "aTHAI CHARACTER KO KAIqHO KHAIvUATvWAIvONtRAKHANGpNGO NGUpCHO CHANvINGvANGpSO SO
pCHO CHOEpYO YINGpDO CHADApTO PATAKqHO THANtNANGMONTHOtPHUTHAOpNO NENpDO DEKpTO TAOqHO THUNGvAHAN
vONGpNO NUpBO BAIMAIpPO PLAqHO PHUNGpFO FApPHO PHANpFO FANpPHO SAMPHAOpMO MApYO YAKpRO RUAqU
pLO LINGqUpWO WAENpSO SALAsRUSIsSUApHO HIPpLO CHULApO ANGpHO NOKHUKpPAIYANNOIpSARA ApMAI HAN-AKAT
pSARA AAvMuIvIuUEwEvvUpPHINTHU"),
   (0xE3F, "aTHAI CURRENCY SYMBOL BAHTgHARACTER SARA EuAEuOuAI MAIMUANβALAIpLAKKHANGYAOpMAIYAMOK
sTAIKHUs EKtTHOuRItCHATTAWApTHANTHAKHATpNIKHAHITpYAMAKKANpFONGMANfDIGIT ZEROlONElTWOmHREElFOUR
mIVElSIXmEVENlEIGHTlNINEfCHARACTER ANGKHANKHUpKHOMUT"),
   (0xE81, "aLAO LETTER KOmHO SUNG"),
   (0xE84, "aLAO LETTER KHO TAM"),
   (0xE86, "aLAO LETTER PALI GHAlNGOlCOlPALI CHAlSO TAM"),
   (0xE8C, "aLAO LETTER PALI JHAlNYOlPALI NYAqTTAsHAqDDAsHAqNNAlDOlTOmHO SUNGpTAMlPALI DHAlNOlBO
lPOmHO SUNGlFO TAMlPHO TAMlFO SUNGlPALI BHAlMOlYOlLO LING"),
   (0xEA5, "aLAO LETTER LO LOOT"),
   (0xEA7, "aLAO LETTER WOlSANSKRIT SHAvSAmO SUNGlHO SUNGlPALI LLAlOlHO TAMeELLIPSISeVOWEL SIGN A
pMAI KANpAAqMpIqIpYqYpUqUeSIGN PALI VIRAMAeVOWEL SIGN MAI KONeSEMIVOWEL SIGN LOtNYO"),
   (0xEC0, "aLAO VOWEL SIGN EqIpOpAYqI"),
   (0xEC6, "aLAO KO LA"),
   (0xEC8, "aLAO TONE MAI EKnTHOoInCATAWAeCANCELLATION MARKeNIGGAHITA"),
   (0xED0, "aLAO DIGIT ZEROkONEkTWOlHREEkFOURlIVEkSIXlEVENkEIGHTkNINE"),
   (0xEDC, "aLAO HO NOhMOeLETTER KHMU GOqNYO"),
   (0xF00, "aTIBETAN SYLLABLE OMiMARK GTER YIG MGO TRUNCATED Aα-UM RNAM BCAD MAεGTER TSHEG MA
nINITIAL YIG MGO MDUN MAnCLOSING YIG MGO SGAB MAoARET YIG MGO PHUR SHAD MAnYIG MGO TSHEG SHAD MA
nSBRUL SHADnBSKUR YIG MGOoKA- SHOG YIG MGOnINTERSYLLABIC TSHEGnDELIMITER TSHEG BSTARnSHAD
nNYIS SHADnTSHEG SHADnNYIS TSHEG SHADnRIN CHEN SPUNGS SHADoGYA GRAM SHAD
nCARET -DZUD RTAGS ME LONG CANnGTER TSHEGiLOGOTYPE SIGN CHAD RTAGSwLHAG RTAGS
iASTROLOGICAL SIGN SGRA GCAN -CHAR RTAGSα-KHYUD PAαSDONG TSHUGSiSIGN RDEL DKAR GCIGyNYISySUM
sNAG GCIGxNYISsDKAR RDEL NAGiDIGIT ZEROoONEoTWOpHREEoFOURpIVEoSIXpEVENoEIGHToNINEoHALF ONEtTWO
uHREEtFOURuIVEtSIXuEVENtEIGHTtNINEtZEROiMARK BSDUS RTAGSnNGAS BZUNG NYI ZLA
nCARET -DZUD RTAGS BZHI MIG CANnNGAS BZUNG SGOR RTAGSnCHE MGOnTSA -PHRUnGUG RTAGS GYONzAS
nANG KHANG GYONzASiSIGN YAR TSHESnMAR TSHESiLETTER KAqHApGAqHApNGApCAqHApJA"),
   (0xF49, "aTIBETAN LETTER NYApTTArHApDDArHApNNApTAqHApDAqHApNApPAqHApBAqHApMApTSArHApDZArHApWA
pZHAqAp-ApYApRApLApSHAqSAqApHApApKSSApFIXED-FORM RApKKApRRA"),
   (0xF71, "aTIBETAN VOWEL SIGN AAtIuItUuUtVOCALIC RγRβLγLtEuEtOuOiSIGN RJES SU NGA ROoNAM BCAD
iVOWEL SIGN REVERSED IδIiSIGN NYI ZLA NAA DAnSNA LDANiMARK HALANTAnPALUTAiSIGN LCI RTAGS
nYANG RTAGSnLCE TSA CANnMCHU CANnGRU CAN RGYINGSrMED RGYINGSnINVERTED MCHU CAN
jUBJOINED SIGN LCE TSA CANxMCHU CANxINVERTED MCHU CANsLETTER KAαHAzGAαHAzNGAzCAαHAzJA"),
   (0xF99, "aTIBETAN SUBJOINED LETTER NYAzTTAβHAzDDAβHAzNNAzTAαHAzDAαHAzNAzPAαHAzBAαHAzMAzTSAβHA
zDZAβHAzWAzZHAαAz-AzYAzRAzLAzSHAαSAαAzHAzAzKSSAzFIXED-FORM WAλYAλRA"),
   (0xFBE, "aTIBETAN KU RU KHAr BZHI MIG CANiCANTILLATION SIGN HEAVY BEATαLIGHT BEATαCANG TE-U
αSBUB -CHALiSYMBOL DRIL BUpRDO RJEpPADMA GDANpRDO RJE RGYA GRAMpPHUR PApNOR BUv NYIS -KHYIL
wGSUM -KHYILwBZHI -KHYIL"),
   (0xFCE, "aTIBETAN SIGN RDEL NAG RDEL DKARwGSUMiMARK BSKA- SHOG GI MGO RGYAN
nMNYAM YIG GI MGO RGYANnNYIS TSHEGnINITIAL BRDA RNYING YIG MGO MDUN MA
nCLOSING BRDA RNYING YIG MGO SGAB MAaRIGHT-FACING SVASTI SIGNaLEFT-FACING SVASTI SIGN
aRIGHT-FACING SVASTI SIGN WITH DOTSaLEFT-FACING SVASTI SIGN WITH DOTS
aTIBETAN MARK LEADING MCHAN RTAGSnTRAILING MCHAN RTAGS"),
   (0x1000, "aMYANMAR LETTER KAqHApGAqHApNGApCAqHApJAqHApNYAqNYApTTArHApDDArHApNNApTAqHApDAqHApNA
pPAqHApBAqHApMApYApRApLApWApSApHApLLApApSHAN ApIqIpUqUpEpMON EpOpAUiVOWEL SIGN TALL AAtAAtIuItUuU
tEtAItMON IIxOtE ABOVEiSIGN ANUSVARAnDOT BELOWnVISARGApRAMAnASATiCONSONANT SIGN MEDIAL YAεRAεWA
εHAiLETTER GREAT SAiDIGIT ZEROoONEoTWOpHREEoFOURpIVEoSIXpEVENoEIGHToNINEiSIGN LITTLE SECTION
nSECTIONjYMBOL LOCATIVEpCOMPLETEDpAFOREMENTIONEDpGENITIVEiLETTER SHAqSApVOCALIC RyRxLyL
iVOWEL SIGN VOCALIC RγRβLγLiLETTER MON NGAtJHAtBBAvEiCONSONANT SIGN MON MEDIAL NAιMAιLA
iLETTER SGAW KAREN SHAiVOWEL SIGN SGAW KAREN EUiTONE MARK SGAW KAREN HATHIδKE PHO
iLETTER WESTERN PWO KAREN THAθPWAiVOWEL SIGN WESTERN PWO KAREN EUμUE
iSIGN WESTERN PWO KAREN TONE-1λ2λ3λ4λ5iLETTER EASTERN PWO KAREN NNAθYWAθGHWA
iVOWEL SIGN GEBA KAREN ItKAYAH OEzUzEEiLETTER SHAN KAvHAuGAuCAuZAuNYAuDAuNAuPHAuFAuBAuTHAuHA
iCONSONANT SIGN SHAN MEDIAL WAiVOWEL SIGN SHAN AAyEz ABOVEyFINAL YiSIGN SHAN TONE-2x3x5x6
sCOUNCIL TONE-2ζ3αEMPHATIC TONEiLETTER RUMAI PALAUNG FAiSIGN RUMAI PALAUNG TONE-5jHAN DIGIT ZERO
tONEtTWOuHREEtFOURuIVEtSIXuEVENtEIGHTtNINEjIGN KHAMTI TONE-1z3iVOWEL SIGN AITON AαI
iSYMBOL SHAN ONEuEXCLAMATIONaGEORGIAN CAPITAL LETTER ANyBANyGANyDONyENyVINyZENyTANyINyKANyLASyMAN
yNARyONyPARyZHARyRAEySANyTARyUNyPHARyKHARyGHANyQARySHINyCHINzANyJILyCILzHARyXANyJHANyHAEzEzIEyWE
yHARzOE"),
   (0x10C7, "aGEORGIAN CAPITAL LETTER YN"),
   (0x10CD, "aGEORGIAN CAPITAL LETTER AEN"),
   (0x10D0, "aGEORGIAN LETTER ANqBANqGANqDONqENqVINqZENqTANqINqKANqLASqMANqNARqONqPARqZHARqRAE
qSANqTARqUNqPHARqKHARqGHANqQARqSHINqCHINrANqJILqCILrHARqXANqJHANqHAErErIEqWEqHARrOEqFIqYNqELIFI
qTURNED GANqAINjPARAGRAPH SEPARATORaMODIFIER LETTER GEORGIAN NARaGEORGIAN LETTER AENqHARD SIGN
qLABIAL SIGNaHANGUL CHOSEONG KIYEOKqSSANGKIYEOKqNIEUNqTIKEUTqSSANGTIKEUTqRIEULqMIEUMqPIEUP
qSSANGPIEUPrIOSrSANGSIOSqIEUNGqCIEUCqSSANGCIEUCqCHIEUCHqKHIEUKHqTHIEUTHqPHIEUPHqHIEUH
qNIEUN-KIYEOKqSSANGNIEUNqNIEUN-TIKEUTwPIEUPqTIKEUT-KIYEOKqRIEUL-NIEUNqSSANGRIEULqRIEUL-HIEUH
qKAPYEOUNRIEULqMIEUM-PIEUPqKAPYEOUNMIEUMqPIEUP-KIYEOKwNIEUNwTIKEUTwSIOSα-KIYEOKβTIKEUTβPIEUP
xSANGSIOSxIOS-CIEUCwCIEUCxHIEUCHwTHIEUTHwPHIEUPHqKAPYEOUNPIEUPySSANGPIEUPqSIOS-KIYEOKvNIEUN
vTIKEUTvRIEULvMIEUMvPIEUPα-KIYEOKvSSANGSIOSvIEUNGvCIEUCwHIEUCHvKHIEUKHvTHIEUTHvPHIEUPHvHIEUH
qCHITUEUMSIOSzSANGSIOSrEONGCHIEUMSIOSγSANGSIOSqPANSIOSqIEUNG-KIYEOKwTIKEUTwMIEUMwPIEUPwSIOS
wPANSIOSqSSANGIEUNGqIEUNG-CIEUCxHIEUCHwTHIEUTHwPHIEUPHqYESIEUNGqCIEUC-IEUNGrHITUEUMCIEUC
ySSANGCIEUCrEONGCHIEUMCIEUCβSSANGCIEUCrHIEUCH-KHIEUKHyHIEUHtTUEUMCHIEUCHrEONGCHIEUMCHIEUCH
qPHIEUPH-PIEUPqKAPYEOUNPHIEUPHqSSANGHIEUHqYEORINHIEUHqKIYEOK-TIKEUTqNIEUN-SIOSwCIEUCwHIEUH
qTIKEUT-RIEULqFILLERhJUNGSEONG FILLERrAsErYAtErEOsrYEOtrOrWAtErOErYOrUrWEOtsIrYUrEUrYIrIrA-OtU
rYA-OuYOrEO-OuUuEUrYEO-OvUrO-EOutYEtOtUrYO-YAwEvEOuOuIrU-AuEtEO-EUtYEtUrYU-AuEOvuYEOwuUuIrEU-UuEU
rYI-UrI-AtYAtOtUtEUtARAEArARAEAw-EOxUxIrSSANGARAEArA-EUrYA-UsEO-YArO-YAvEiONGSEONG KIYEOK
rSSANGKIYEOKrKIYEOK-SIOSrNIEUNw-CIEUCxHIEUHrTIKEUTrRIEULw-KIYEOKxMIEUMxPIEUPxSIOSxTHIEUTHxPHIEUPH
xHIEUHrMIEUMrPIEUPw-SIOSrSIOSsSANGSIOSrIEUNGrCIEUCsHIEUCHrKHIEUKHrTHIEUTHrPHIEUPHrHIEUH
rKIYEOK-RIEULySIOS-KIYEOKrNIEUN-KIYEOKxTIKEUTxSIOSxPANSIOSxTHIEUTHrTIKEUT-KIYEOKyRIEUL
rRIEUL-KIYEOK-SIOSxNIEUNxTIKEUTδ-HIEUHrSSANGRIEULrRIEUL-MIEUM-KIYEOKδSIOSxPIEUP-SIOSδHIEUH
xKAPYEOUNPIEUPxSSANGSIOSxPANSIOSxKHIEUKHxYEORINHIEUHrMIEUM-KIYEOKxRIEULxPIEUPxSIOSySANGSIOS
xPANSIOSxCHIEUCHxHIEUHrKAPYEOUNMIEUMrPIEUP-RIEULxPHIEUPHxHIEUHrKAPYEOUNPIEUPrSIOS-KIYEOKwTIKEUT
wRIEULwPIEUPrPANSIOSrIEUNG-KIYEOKxSSANGKIYEOKrSSANGIEUNGrIEUNG-KHIEUKHrYESIEUNGz-SIOSαPANSIOS
rPHIEUPH-PIEUPrKAPYEOUNPHIEUPHrHIEUH-NIEUNxRIEULxMIEUMxPIEUPrYEORINHIEUHrKIYEOK-NIEUNyPIEUP
yCHIEUCHyKHIEUKHyHIEUHrSSANGNIEUNaETHIOPIC SYLLABLE HAtUtItAAtEEutOuAsLAtUtItAAtEEutOtWAsHHAuUuI
uAAuEEvuOuWAsMAtUtItAAtEEutOtWAsSZAuUuIuAAuEEvuOuWAsRAtUtItAAtEEutOtWAsSAtUtItAAtEEutOtWAtHAuUuI
uAAuEEvuOuWAsQAtUtItAAtEEutOuAtWA"),
   (0x124A, "aETHIOPIC SYLLABLE QWIuAAuEEv"),
   (0x1250, "aETHIOPIC SYLLABLE QHAuUuIuAAuEEvuO"),
   (0x1258, "aETHIOPIC SYLLABLE QHWA"),
   (0x125A, "aETHIOPIC SYLLABLE QHWIvAAvEEw"),
   (0x1260, "aETHIOPIC SYLLABLE BAtUtItAAtEEutOtWAsVAtUtItAAtEEutOtWAsTAtUtItAAtEEutOtWAsCAtUtI
tAAtEEutOtWAsXAtUtItAAtEEutOuAtWA"),
   (0x128A, "aETHIOPIC SYLLABLE XWIuAAuEEv"),
   (0x1290, "aETHIOPIC SYLLABLE NAtUtItAAtEEutOtWAtYAuUuIuAAuEEvuOuWAsGLOTTAL AαUαIαAAαEEβαOαWA
sKAtUtItAAtEEutOuAtWA"),
   (0x12B2, "aETHIOPIC SYLLABLE KWIuAAuEEv"),
   (0x12B8, "aETHIOPIC SYLLABLE KXAuUuIuAAuEEvuO"),
   (0x12C0, "aETHIOPIC SYLLABLE KXWA"),
   (0x12C2, "aETHIOPIC SYLLABLE KXWIvAAvEEw"),
   (0x12C8, "aETHIOPIC SYLLABLE WAtUtItAAtEEutOuAsPHARYNGEAL AδUδIδAAδEEεδO"),
   (0x12D8, "aETHIOPIC SYLLABLE ZAtUtItAAtEEutOtWAtHAuUuIuAAuEEvuOuWAsYAtUtItAAtEEutOuAsDAtUtItAA
tEEutOtWAtDAuUuIuAAuEEvuOuWAsJAtUtItAAtEEutOtWAsGAtUtItAAtEEutOuAtWA"),
   (0x1312, "aETHIOPIC SYLLABLE GWIuAAuEEv"),
   (0x1318, "aETHIOPIC SYLLABLE GGAuUuIuAAuEEvuOuWAAsTHAuUuIuAAuEEvuOuWAsCHAuUuIuAAuEEvuOuWAsPHA
uUuIuAAuEEvuOuWAsTSAuUuIuAAuEEvuOuWAtZAuUuIuAAuEEvuOvAsFAtUtItAAtEEutOtWAsPAtUtItAAtEEutOtWAsRYA
sMYAsFYA"),
   (0x135D, "aETHIOPIC COMBINING GEMINATION AND VOWEL LENGTH MARKtVOWEL LENGTH MARK
tGEMINATION MARKjSECTION MARKjWORDSPACEjFULL STOPjCOMMAjSEMICOLONjCOLONjPREFACE COLON
jQUESTION MARKjPARAGRAPH SEPARATORjDIGIT ONEpTWOqHREEpFOURqIVEpSIXqEVENpEIGHTpNINEjNUMBER TEN
rWENTYrHIRTYqFORTYrIFTYqSIXTYrEVENTYqEIGHTYqNINETYqHUNDREDqTEN THOUSAND"),
   (0x1380, "aETHIOPIC SYLLABLE SEBATBEIT MWAsMWIuEEvsSEBATBEIT BWAsBWIuEEvsSEBATBEIT FWAsFWIuEEv
sSEBATBEIT PWAsPWIuEEvjTONAL MARK YIZETuDERETuRIKRIKuSHORT RIKRIKuDIFATuKENATuCHIRETuHIDET
uDERET-HIDETuKURT"),
   (0x13A0, "aCHEROKEE LETTER AqEqIqOqUqVqGAqKAqGErIrOrUrVqHArErIrOrUrVqLArErIrOrUrVqMArErIrOrU
qNAqHNAqNAHrErIrOrUrVqQUAsEsIsOsUsVqSArrErIrOrUrVqDAqTAqDEqTEqDIqTIqDOrUrVrLAqTLAsEsIsOsUsVrSAsE
sIsOsUsVqWArErIrOrUrVqYArErIrOrUrVqMV"),
   (0x13F8, "aCHEROKEE SMALL LETTER YExIxOxUxVwMV"),
   (0x1400, "aCANADIAN SYLLABICS HYPHENtEtAAItIuItOuOtY-CREE OOtCARRIER EEβItAuAtWEvST-CREE WEuI
uEST-CREE WIuIIuEST-CREE WIIuOuEST-CREE WOuOOuEST-CREE WOOtNASKAPI WOOtWAuEST-CREE WAuAA
uEST-CREE WAAtNASKAPI WAAtAItY-CREE WtGLOTTAL STOPtFINAL ACUTEzGRAVEzBOTTOM HALF RING
zTOP HALF RINGzRIGHT HALF RINGβNGzDOUBLE ACUTEηSHORT VERTICAL STROKESzMIDDLE DOT
zSHORT HORIZONTAL STROKEzPLUSzDOWN TACKtENtINtONtANtPEuAAIuIvIuOvOtY-CREE POOtCARRIER HEEγItPAvA
uWEtWEST-CREE PWEtPWItWEST-CREE PWItPWIItWEST-CREE PWIItPWOtWEST-CREE PWOtPWOOtWEST-CREE PWOOtPWA
tWEST-CREE PWAtPWAAtWEST-CREE PWAAtY-CREE PWAAtPtWEST-CREE PtCARRIER HtTEuAAIuIvIuOvOtY-CREE TOO
tCARRIER DEEγItTAvAuWEtWEST-CREE TWEtTWItWEST-CREE TWItTWIItWEST-CREE TWIItTWOtWEST-CREE TWOtTWOO
tWEST-CREE TWOOtTWAtWEST-CREE TWAtTWAAtWEST-CREE TWAAtNASKAPI TWAAtTuTEvIvOvAtKEuAAIuIvIuOvO
tY-CREE KOOtKAvAuWEtWEST-CREE KWEtKWItWEST-CREE KWItKWIItWEST-CREE KWIItKWOtWEST-CREE KWOtKWOO
tWEST-CREE KWOOtKWAtWEST-CREE KWAtKWAAtWEST-CREE KWAAtNASKAPI KWAAtKuWtSOUTH-SLAVEY KEHθIHθOHθAH
tCEuAAIuIvIuOvOtY-CREE COOtCAvAuWEtWEST-CREE CWEtCWItWEST-CREE CWItCWIItWEST-CREE CWIItCWO
tWEST-CREE CWOtCWOOtWEST-CREE CWOOtCWAtWEST-CREE CWAtCWAAtWEST-CREE CWAAtNASKAPI CWAAtCtSAYISI TH
tMEuAAIuIvIuOvOtY-CREE MOOtMAvAuWEtWEST-CREE MWEtMWItWEST-CREE MWItMWIItWEST-CREE MWIItMWO
tWEST-CREE MWOtMWOOtWEST-CREE MWOOtMWAtWEST-CREE MWAtMWAAtWEST-CREE MWAAtNASKAPI MWAAtM
tWEST-CREE MtMHtATHAPASCAN MtSAYISI MtNEuAAIuIvIuOvOtY-CREE NOOtNAvAuWEtWEST-CREE NWEtNWA
tWEST-CREE NWAtNWAAtWEST-CREE NWAAtNASKAPI NWAAutCARRIER NGtNHtLEuAAIuIvIuOvOtY-CREE LOOtLAvAuWE
tWEST-CREE LWEtLWItWEST-CREE LWItLWIItWEST-CREE LWIItLWOtWEST-CREE LWOtLWOOtWEST-CREE LWOOtLWA
tWEST-CREE LWAtLWAAtWEST-CREE LWAAtLtWEST-CREE LtMEDIAL LtSEuAAIuIvIuOvOtY-CREE SOOtSAvAuWE
tWEST-CREE SWEtSWItWEST-CREE SWItSWIItWEST-CREE SWIItSWOtWEST-CREE SWOtSWOOtWEST-CREE SWOOtSWA
tWEST-CREE SWAtSWAAtWEST-CREE SWAAtNASKAPI SWAAtStATHAPASCAN StSWtBLACKFOOT StMOOSE-CREE SK
tNASKAPI SKWγ-WγPWAγTWAγKWAγCWAtSHEvIwIvOwOvAwAvWEtWEST-CREE SHWEtSHWItWEST-CREE SHWItSHWII
tWEST-CREE SHWIItSHWOtWEST-CREE SHWOtSHWOOtWEST-CREE SHWOOtSHWAtWEST-CREE SHWAtSHWAA
tWEST-CREE SHWAAtSHtYEuAAIuIvIuOvOu-CREE YOOuAvAuWEtWEST-CREE YWEtYWItWEST-CREE YWItYWII
tWEST-CREE YWIItYWOtWEST-CREE YWOtYWOOtWEST-CREE YWOOtYWAtWEST-CREE YWAtYWAAtWEST-CREE YWAA
tNASKAPI YWAAtYtBIBLE-CREE YtWEST-CREE YtSAYISI YItREu-CREE REtWEST-CREE LEtRAAIuIvIuOvO
tWEST-CREE LOtRAvAtWEST-CREE LAtRWAAtWEST-CREE RWAAtRtWEST-CREE RtMEDIAL RtFEuAAIuIvIuOvOuAvAuWAA
tWEST-CREE FWAAtFtTHEtN-CREE THEtTHItN-CREE THItTHIItN-CREE THIItTHOwOvAwAvWAAtWEST-CREE THWAAtTH
uTHEwIwOwAwuYEvIvOvAtNUNAVIK HEγIδIγOδOγAδAγyUT HtHKtQAAIuIvIuOvOuAvAutTLHEwIwOwAtWEST-CREE REεI
εOεAtNGAAIvIwIvOwOvAwAvuNGtSAYISI SHEγIγOγAtWOODS-CREE THEηIηOηAηtLHIwIvOwOvAwAvtTH-CREE THEδIεI
δOεOδAεAδtAIVILIK BtBLACKFOOT EδIδOδAδWEεIεOεAδNEεIεOεAδKEεIεOεAtSAYISI HEβIβOβAtCARRIER GHUδOδE
εEδIδAβRUγOγEδEγIγAβWUγOγEδEγIγAβHWUδOδEεEδIδAβTHUδOδEεEδIδAγTUδOδEεEδIδAβPUγOγEδEγIγAγβGUγOγEδE
γIγAβKHUδOδEεEδIδAγKUδOδEεEδIδAδβNUγOγEδEγIγAβMUγOγEδEγIγAβYUγOγEδEγIγAβJUtSAYISI JUtCARRIER JOγE
δEγItSAYISI JItCARRIER JAγJUδOδEεEδIδAβLUγOγEδEγIγAβDLUδOδEεEδIδAβLHUδOδEεEδIδAβTLHUεOεEζEεIεAδU
δOδEεEδIδAβZUγOγEδEγIγAγβINITIAL ZβDZUδOδEεEδIδAβSUγOγEδEγIγAγHUδOδEεEδIδAδβTSUδOδEεEδIδAβCHUδOδE
εEδIδAβTTSUεOεEζEεIεAuHI SIGNtFULL STOPtQAItNGAIuNGIxIwOxOwAxAtWOODS-CREE THWEEθIιIθOιOθAιA
εFINAL THtBLACKFOOT WaOGHAM SPACE MARKgLETTER BEITHnLUISnFEARNnSAILnNIONnUATHnDAIRnTINNEnCOLL
oEIRTnMUINnGORTnNGEADALnSTRAIFnRUISnAILMnONNnURnEADHADHnIODHADHnEABHADHnORnUILLEANNnIFIN
nEAMHANCHOLLnPEITHgFEATHER MARKgREVERSED FEATHER MARK"),
   (0x16A0, "aRUNIC LETTER FEHU FEOH FE FnVnURUZ UR UnYRonWnTHURISAZ THURS THORNnETHnANSUZ AnOS O
nAC AoESCnLONG-BRANCH-OSS OnSHORT-TWIG-OSS OnOoEoNnRAIDO RAD REID RnKAUNAnCENnKAUN KnGnENG
nGEBO GYFU GoARnWUNJO WYNN WnHAGLAZ HpEGL HnLONG-BRANCH-HAGALL HnSHORT-TWIG-HAGALL H
nNAUDIZ NYD NAUD NnSHORT-TWIG-NAUD NnDOTTED-NnISAZ IS ISS InEnJERAN JnGERnLONG-BRANCH-AR AE
nSHORT-TWIG-AR AnIWAZ EOHnPERTHO PEORTH PnALGIZ EOLHXnSOWILO SoIGEL LONG-BRANCH-SOL S
oHORT-TWIG-SOL SnCnZnTIWAZ TIR TYR TnSHORT-TWIG-TYR TnDnBERKANAN BEORC BJARKAN B
nSHORT-TWIG-BJARKAN BnDOTTED-PnOPEN-PnEHWAZ EH EnMANNAZ MAN MnLONG-BRANCH-MADR M
nSHORT-TWIG-MADR MnLAUKAZ LAGU LOGR LnDOTTED-LnINGWAZqnDAGAZ DAEG DnOTHALAN ETHEL OnEARnIOR
nCWEORTHoALCoEALCnSTANnLONG-BRANCH-YRnSHORT-TWIG-YRnICELANDIC-YRnQnXgSINGLE PUNCTUATION
gMULTIPLE PUNCTUATIONgCROSS PUNCTUATIONgARLAUG SYMBOLgTVIMADUR SYMBOLgBELGTHOR SYMBOLgLETTER KnSH
nOOnFRANKS CASKET OSβISβEHβACγESC"),
   (0x1700, "aTAGALOG LETTER ApIpUpKApGApNGApTApDApNApPApBApMApYApRApLApWApSApHAiVOWEL SIGN ItU
iSIGN VIRAMAnPAMUDPOD"),
   (0x171F, "aTAGALOG LETTER ARCHAIC RAaHANUNOO LETTER ApIpUpKApGApNGApTApDApNApPApBApMApYApRApLA
pWApSApHAiVOWEL SIGN ItUiSIGN PAMUDPODaPHILIPPINE SINGLE PUNCTUATIONlDOUBLE PUNCTUATION"),
   (0x1740, "aBUHID LETTER AnInUnKAnGAnNGAnTAnDAnNAnPAnBAnMAnYAnRAnLAnWAnSAnHAgVOWEL SIGN IrU"),
   (0x1760, "aTAGBANWA LETTER AqIqUqKAqGAqNGAqTAqDAqNAqPAqBAqMAqYA"),
   (0x176E, "aTAGBANWA LETTER LAqWAqSA"),
   (0x1772, "aTAGBANWA VOWEL SIGN IuU"),
   (0x1780, "aKHMER LETTER KAoHAoOoHOnNGOnCAoHAoOoHOnNYOnDAnTTHAnDOnTTHOnNNOnTAoHAoOoHOnNOnBAnPHA
oOoHOnMOnYOnROnLOnVOnSHAoSOoAnHAnLAnQAgINDEPENDENT VOWEL QAQαAzIαIzUαKαUβVyRYαYyLYαYyQEzAI
zOO TYPE ONEθTWOzAUgVOWEL INHERENT AQwAmSIGN AArIsIrYsYrUsUsArOErYArIErErAEsIrOOrAUgSIGN NIKAHIT
lREAHMUKlYUUKALEAPINTUlMUUSIKATOANlTRIISAPlBANTOClROBATlTOANDAKHIATlKAKABATlAHSDAlSAMYOK SANNYA
lVIRIAMlCOENGlBATHAMASATlKHANlBARIYOOSANlCAMNUC PII KUUHlLEK TOOlBEYYALlPHNAEK MUANlKOOMUUT
gCURRENCY SYMBOL RIELgSIGN AVAKRAHASANYAmTTHACAN"),
   (0x17E0, "aKHMER DIGIT ZEROmONEmTWOnHREEmFOURnIVEmSIXnEVENmEIGHTmNINE"),
   (0x17F0, "aKHMER SYMBOL LEK ATTAK SONxMUOYxPIIxBEIyUONxPRAMβ-MUOYγPIIγBEIδUON"),
   (0x1800, "aMONGOLIAN BIRGAkELLIPSISkCOMMAkFULL STOPkCOLONkFOUR DOTSkTODO SOFT HYPHEN
kSIBE SYLLABLE BOUNDARY MARKERkMANCHU COMMArFULL STOPkNIRUGUkFREE VARIATION SELECTOR ONEιTWOκHREE
kVOWEL SEPARATORkFREE VARIATION SELECTOR FOURkDIGIT ZEROqONEqTWOrHREEqFOURrIVEqSIXrEVENqEIGHT
qNINE"),
   (0x1820, "aMONGOLIAN LETTER ArErIrOrUrOErUErEErNArANGrBArPArQArGArMArLArSAsHArTArDArCHArJArYA
rRArWArFArKAsHArTSArZArHAArZRArLHArZHIrCHIrTODO LONG VOWEL SIGNwEwIwOwUwOEwUEwANGwBAwPAwQAwGAwMA
wTAwDAwCHAwJAwTSAwYAwWAwKAwGAAwHAAwJIAwNIAwDZArSIBE EwIxYwUExwANGwKAwGAwHAwPAwSHAwTAwDAwJAwFAwGAA
wHAAwTSAwZAwRAAwCHAwZHArMANCHU IyKAyRAyFAyZHArCHA WITH TWO DOTS"),
   (0x1880, "aMONGOLIAN LETTER ALI GALI ANUSVARA ONEαVISARGA ONEαDAMARUαUBADAMAαINVERTED UBADAMA
αBALUDAαTHREE BALUDAαAαIαKAαNGAαCAαTTAγHAαDDAαNNAαTAαDAαPAβHAαSSAαZHAβAαAHrTODO ALI GALI TAζZHA
rMANCHU ALI GALI GHAθNGAθCAθJHAθTTAθDDHAθTAθDHAθSSAθCYAθZHAιArALI GALI HALF UζYA
rMANCHU ALI GALI BHArALI GALI DAGALGArMANCHU ALI GALI LHA"),
   (0x18B0, "aCANADIAN SYLLABICS OYtAYuAYtWAYtPOYuAYuWOYtTAYtKAYuWAYtMAYtNOYuAYtLAYtSOYuAYuHOYvAY
vWOYtYOYuAYtRAYtNWItOJIBWAY NWItNWIItOJIBWAY NWIItNWOtOJIBWAY NWOtNWOOtOJIBWAY NWOOtRWEEvIwIvOwO
vAtOJIBWAY PβTβKβCβMβNβSγHtEASTERN WtWESTERN WtFINAL SMALL RINGzRAISED DOTtR-CREE RWE
tWEST-CREE LOOεAAtTHWEwAuTHWEwOOwAAuLHWEwOOtSAYISI SHWEγOOαHOOtCARRIER GWUβDENE GEEβGAAγWA
tSAYISI JUUtCARRIER JWAtBEAVER DENE LζRtCARRIER DENTAL S"),
   (0x1900, "aLIMBU VOWEL-CARRIER LETTERgLETTER KAoHAnGAoHAnNGAnCAoHAnJAoHAnYANnTAoHAnDAoHAnNAnPA
oHAnBAoHAnMAnYAnRAnLAnWAnSHAoSAoAnHAnGYANnTRA"),
   (0x1920, "aLIMBU VOWEL SIGN ArIrUrEErAIrOOrAUrErOgSUBJOINED LETTER YAxRAxWA"),
   (0x1930, "aLIMBU SMALL LETTER KAtNGAtANUSVARAtTAtNAtPAtMAtRAtLAhIGN MUKPHRENGlKEMPHRENGlSA-I"),
   (0x1940, "aLIMBU SIGN LOO"),
   (0x1944, "aLIMBU EXCLAMATION MARKgQUESTION MARKgDIGIT ZEROmONEmTWOnHREEmFOURnIVEmSIXnEVEN
mEIGHTmNINEaTAI LE LETTER KAoXAoNGAoTSAoSAoYAoTApHAoLAoPApHAoMAoFAoVAoHAoQAoKHAoTSHAoNAoAoIoEEpH
oUoOOpoUEoEoAUEpI"),
   (0x1970, "aTAI LE LETTER TONE-2t3t4t5t6"),
   (0x1980, "aNEW TAI LUE LETTER HIGH QAtLOW QAtHIGH KAyXAyNGAtLOW KAxXAxNGAtHIGH TSAySAyYA
tLOW TSAxSAxYAtHIGH TAzHAyNAtLOW TAyHAxNAtHIGH PAzHAyMAtLOW PAyHAxMAtHIGH FAyVAyLAtLOW FAxVAxLA
tHIGH HAyDAyBAtLOW HAxDAxBAtHIGH KVAyXVAtLOW KVAxXVAtHIGH SUAtLOW SUA"),
   (0x19B0, "aNEW TAI LUE VOWEL SIGN VOWEL SHORTENERxAAxIIxUyUxExAExOyAxUExAYyAYxUYxOYyAYxUEYxIY
mLETTER FINAL VzNGαzMzKzDzBmTONE MARK-1w2"),
   (0x19D0, "aNEW TAI LUE DIGIT ZEROsONEsTWOtHREEsFOURtIVEsSIXtEVENsEIGHTsNINEmTHAM DIGIT ONE"),
   (0x19DE, "aNEW TAI LUE SIGN LAEuVaKHMER SYMBOL PATHAMASATnMUOY KOETnPII KOETnBEI KOEToUON KOET
nPRAM KOETr-MUOY KOETsPII KOETsBEI KOETtUON KOETnDAP KOETq-MUOY KOETrPII KOETrBEI KOETsUON KOET
rPRAM KOETnTUTEYASATnMUOY ROCnPII ROCnBEI ROCoUON ROCnPRAM ROCr-MUOY ROCsPII ROCsBEI ROCtUON ROC
nDAP ROCq-MUOY ROCrPII ROCrBEI ROCsUON ROCrPRAM ROCaBUGINESE LETTER KAqGAqNGAsKAqPAqBAqMArPAqTA
qDAqNArRAqCAqJAqNYAsCAqYAqRAqLAqVAqSAqAqHAjVOWEL SIGN IuUuEuOuAE"),
   (0x1A1E, "aBUGINESE PALLAWAjEND OF SECTIONaTAI THAM LETTER HIGH KAwHAwXAqLOW KAvXAvHAqNGA
qHIGH CAwHAqLOW CAuSAuCHAqNYAqRATAqHIGH RATHAqDAqLOW RATHAqRANAqHIGH TAwHAqLOW TAvHAqNAqBA
qHIGH PAwHAvFAqLOW PAuFAuPHAqMAqLOW YAqHIGH YAqRArUEqLArUEqWAqHIGH SHAwSAwAvHAqLLAqAqLOW HAqIrIqU
rUqEEqOOqLAEqGREAT SAjCONSONANT SIGN MEDIAL RAζLAyLA TANG LAIjSIGN MAI KANG LAI
jCONSONANT SIGN FINAL NGAyLOW PAyHIGH RATHA OR LOW PAyMAyBAySA"),
   (0x1A60, "aTAI THAM SIGN SAKOTjVOWEL SIGN AuMAI SATuAAuTALL AAuIvIuUEvUEvvUuOvA BELOWvYuEuAE
uOOuAIuTHAM AIuOA ABOVEjSIGN MAI KANGoTONE-1t2oKHUEN TONE-3z4z5oRA HAAMoMAI SAMoKHUEN-LUE KARAN"),
   (0x1A7F, "aTAI THAM COMBINING CRYPTOGRAMMIC DOTjHORA DIGIT ZEROuONEuTWOvHREEuFOURvIVEuSIXvEVEN
uEIGHTuNINE"),
   (0x1A90, "aTAI THAM THAM DIGIT ZEROuONEuTWOvHREEuFOURvIVEuSIXvEVENuEIGHTuNINE"),
   (0x1AA0, "aTAI THAM SIGN WIANGtWAAKoSAWANoKEOWoHOYoDOKMAIoREVERSED ROTATED RANAoMAI YAMOKoKAAN
sKUUoSATKAANvKUUoHANGoCAANG"),
   (0x1AB0, "aCOMBINING DOUBLED CIRCUMFLEX ACCENTlIAERESIS-RINGkINFINITYkDOWNWARDS ARROW
kTRIPLE DOTkX-X BELOWkWIGGLY LINE BELOWkOPEN MARK BELOWkDOUBLE OPEN MARK BELOW
kLIGHT CENTRALIZATION STROKE BELOWkSTRONG CENTRALIZATION STROKE BELOWkPARENTHESES ABOVE
kDOUBLE PARENTHESES ABOVEkPARENTHESES BELOWwOVERLAYkLATIN SMALL LETTER W BELOWδTURNED W BELOW
lEFT PARENTHESIS ABOVE LEFTkRIGHT PARENTHESIS ABOVE RIGHTkLEFT PARENTHESIS BELOW LEFT
kRIGHT PARENTHESIS BELOW RIGHTkSQUARE BRACKETS ABOVEkNUMBER SIGN ABOVEkINVERTED DOUBLE ARCH ABOVE
kPLUS SIGN ABOVEkDOUBLE PLUS SIGN ABOVEβBELOWkTRIPLE ACUTE ACCENTkLATIN SMALL LETTER INSULAR GμR
μT"),
   (0x1B00, "aBALINESE SIGN ULU RICEMsCANDRAoCECEKoSURANGoBISAHjLETTER AKARAv TEDUNGqIKARA
v TEDUNGqUKARAv TEDUNGqRA REPAx TEDUNGqLA LENGAy TEDUNGqEKARAqAIKARAqOKARAv TEDUNGqKAs MAHAPRANA
qGAs GORAqNGAqCAs LACAqJAs JERAqNYAqTA LATIKtMURDA MAHAPRANAqDA MURDA ALPAPRANAzMAHAPRANA
qNA RAMBATqTAs TAWAqDAs MADUqNAqPAs KAPALqBAs KEMBANGqMAqYAqRAqLAqWAqSA SAGAvPAsqHAjSIGN REREKAN
jVOWEL SIGN TEDUNGuULUx SARIuSUKUy ILUTuRA REPAβ TEDUNGuLA LENGAγ TEDUNGuTALINGα REPAβTEDUNG
βREPA TEDUNGuPEPETz TEDUNGjADEG ADEGjLETTER KAF SASAKrHOT SASAKqTZIR SASAKqEF SASAKqVE SASAK
qZAL SASAKqASYURA SASAKrRCHAIC JNYA"),
   (0x1B50, "aBALINESE DIGIT ZEROpONEpTWOqHREEpFOURqIVEpSIXqEVENpEIGHTpNINEjPANTIlMADAjWINDU
jCARIK PAMUNGKAHpSIKIpPARERENjPAMENENGjMUSICAL SYMBOL DONGzENGzUNGzANGγ SURANGzINGzAENGzEUNGzAING
αNG GEDEyCOMBINING TEGEHιENDEPιKEMPULνLIιJEGOGANιKEMPUL WITH JEGOGANνLI WITH JEGOGANιBENDEιGONG
yRIGHT-HAND OPEN DUGπAGκCLOSED TUKςAKyLEFT-HAND OPEN PANGοUNGιCLOSED PLAKςUKιOPEN PING
jPANTI LANTANGlMADA LANTANG"),
   (0x1B80, "aSUNDANESE SIGN PANYECEKsGLAYARtWISADkLETTER ArIrUrAErOrEsUrKArQArGArNGArCArJArZA
rNYArTArDArNArPArFArVArBArMArYArRArLArWArSArXArHAkCONSONANT SIGN PAMINGKALβNYAKRAδIKU
kVOWEL SIGN PANGHULUyYUKUyAELAENGyOLONGxMEPETxNEULEUNGkSIGN PAMAAEHpVIRAMA
kCONSONANT SIGN PASANGAN MAιWAkLETTER KHArSYAkDIGIT ZEROqONEqTWOrHREEqFOURrIVEqSIXrEVENqEIGHT
qNINEkAVAGRAHAkLETTER REUrLEUrBHArFINAL KxMaBATAK LETTER AnSIMALUNGUN AnHAnSIMALUNGUN HA
nMANDAILING HAnBAnKARO BAnPAnSIMALUNGUN PAnNAnMANDAILING NAnWAnSIMALUNGUN WAnPAKPAK WAnGA
nSIMALUNGUN GAnJAnDAnRAnSIMALUNGUN RAnMAnSIMALUNGUN MAoOUTHERN TAnNORTHERN TAnSAoIMALUNGUN SA
nMANDAILING SAnYAnSIMALUNGUN YAnNGAnLAnSIMALUNGUN LAnNYAnCAnNDAnMBAnInUgSIGN TOMPIgVOWEL SIGN E
rPAKPAK ErEErIrKARO IrOrKARO OrUs FOR SIMALUNGUN SAgCONSONANT SIGN NGvHgPANGOLATjONGONAN"),
   (0x1BFC, "aBATAK SYMBOL BINDU NA METEKtPINARBORAStJUDULtPANGOLATaLEPCHA LETTER KApLApHAoGApLA
oNGAoCApHAoJAoNYAoTApHAoDAoNAoPApLApHAoFApLAoBApLAoMApLAoTSAqHAoDZAoYAoRAoLAoHApLAoVAoSApHAoWAoA
hSUBJOINED LETTER YAyRAhVOWEL SIGN AAsIsOtOsUtUsEhCONSONANT SIGN KwMwLwNwPwRwTwNYIN-DOwKANG
hSIGN RANmNUKTA"),
   (0x1C3B, "aLEPCHA PUNCTUATION TA-ROLtNYET THYOOM TA-ROLtCER-WAtTSHOOK CER-WAzhDIGIT ZEROnONE
nTWOoHREEnFOURoIVEnSIXoEVENnEIGHTnNINE"),
   (0x1C4D, "aLEPCHA LETTER TTAqHAoDDAaOL CHIKI DIGIT ZEROpONEpTWOqHREEpFOURqIVEpSIXqEVENpEIGHT
pNINEjLETTER LAqATrGrNGrLqLAAqAAKsJsMsWqLIqISrHrNYrRqLUqUCrDrNNrYqLEqEPrDDrNrRRqLOqOTTrBrVrH
jMU TTUDDAGjGAAHLAA TTUDDAAGjMU-GAAHLAA TTUDDAAGjRELAAjPHAARKAAjAHADjPUNCTUATION MUCAAD
vDOUBLE MUCAADaCYRILLIC SMALL LETTER ROUNDED VEwLONG-LEGGED DEwNARROW OwWIDE ESwTALL TE
xHREE-LEGGED TExALL HARD SIGNβYATwUNBLENDED UK"),
   (0x1C90, "aGEORGIAN MTAVRULI CAPITAL LETTER ANθBANθGANθDONθENθVINθZENθTANθINθKANθLASθMANθNAR
θONθPARθZHARθRAEθSANθTARθUNθPHARθKHARθGHANθQARθSHINθCHINιANθJILθCILιHARθXANθJHANθHAEιEιIEθWEθHAR
ιOEθFIθYNθELIFIθTURNED GANθAIN"),
   (0x1CBD, "aGEORGIAN MTAVRULI CAPITAL LETTER AENθHARD SIGNθLABIAL SIGN
aSUNDANESE PUNCTUATION BINDU SURYAγPANGLONGδURNAMAγCAKRAγLEU SATANGAγKA SATANGAγDA SATANGA
γBA SATANGA"),
   (0x1CD0, "aVEDIC TONE KARSHANAlSHARAlPRENKHAgSIGN NIHSHVASAlYAJURVEDIC MIDLINE SVARITA
gTONE YAJURVEDIC AGGRAVATED INDEPENDENT SVARITAwINDEPENDENT SVARITAwKATHAKA INDEPENDENT SVARITA
lCANDRA BELOWlYAJURVEDIC KATHAKA INDEPENDENT SVARITA SCHROEDERlDOUBLE SVARITAlTRIPLE SVARITA
lKATHAKA ANUDATTAlDOT BELOWlTWO DOTS BELOWmHREE DOTS BELOWlRIGVEDIC KASHMIRI INDEPENDENT SVARITA
lATHARVAVEDIC INDEPENDENT SVARITAgSIGN VISARGA SVARITAtUDATTAlREVERSED VISARGA UDATTA
lVISARGA ANUDATTAlREVERSED VISARGA ANUDATTAlVISARGA UDATTA WITH TAILtANUDATTA WITH TAIL
lANUSVARA ANTARGOMUKHAuBAHIRGOMUKHAuVAMAGOMUKHAζ WITH TAILlTIRYAKlHEXIFORM LONG ANUSVARA
lLONG ANUSVARAlRTHANG LONG ANUSVARAlANUSVARA UBHAYATO MUKHAmRDHAVISARGAlROTATED ARDHAVISARGA
gTONE CANDRA ABOVEgSIGN JIHVAMULIYAlUPADHMANIYAlATIKRAMAgTONE RING ABOVElDOUBLE RING ABOVE
gSIGN DOUBLE ANUSVARA ANTARGOMUKHA"),
   (0x1D00, "aLATIN LETTER SMALL CAPITAL AγEgSMALL LETTER TURNED AEgLETTER SMALL CAPITAL BARRED B
βCβDβETHγgSMALL LETTER TURNED OPEN EαIgLETTER SMALL CAPITAL JβKβL WITH STROKEβMβREVERSED NβO
γPEN OgSMALL LETTER SIDEWAYS OδPEN Oδ WITH STROKEtTURNED OEgLETTER SMALL CAPITAL OU
gSMALL LETTER TOP HALF OtBOTTOM HALF OgLETTER SMALL CAPITAL PβREVERSED RβTURNED RγβU
gSMALL LETTER SIDEWAYS UγDIAERESIZED UγTURNED MgLETTER SMALL CAPITAL VβWβZβEZH
nVOICED LARYNGEAL SPIRANTnAINaGREEK LETTER SMALL CAPITAL GAMMAβLAMDAβPIβRHOβPSI
aCYRILLIC LETTER SMALL CAPITAL ELaMODIFIER LETTER CAPITAL AzEyBzARRED ByDyEyREVERSED EyGyHyIyJyK
yLyMyNyREVERSED NyOzUyPyRyTyUyWqSMALL AwTURNED AwALPHAwTURNED AEwBwDwEwSCHWAwOPEN EwTURNED OPEN E
wGwTURNED IwKwMwENGwOxPEN OwTOP HALF OwBOTTOM HALF OwPwTwUwSIDEWAYS UwTURNED MwVwAINwBETA
wGREEK GAMMAwDELTAwGREEK PHIwCHIaLATIN SUBSCRIPT SMALL LETTER IδRδUδV
aGREEK SUBSCRIPT SMALL LETTER BETAδGAMMAδRHOδPHIδCHIaLATIN SMALL LETTER UEtB WITH MIDDLE TILDE
tD WITH MIDDLE TILDEtF WITH MIDDLE TILDEtM WITH MIDDLE TILDEtN WITH MIDDLE TILDE
tP WITH MIDDLE TILDEtR WITH MIDDLE TILDEαFISHHOOK AND MIDDLE TILDEtS WITH MIDDLE TILDE
tT WITH MIDDLE TILDEtZ WITH MIDDLE TILDEtTURNED GaMODIFIER LETTER CYRILLIC EN
aLATIN SMALL LETTER INSULAR GtTH WITH STRIKETHROUGHmCAPITAL LETTER I WITH STROKE
mLETTER IOTA WITH STROKEtP WITH STROKEmCAPITAL LETTER U WITH STROKEmLETTER UPSILON WITH STROKE
tB WITH PALATAL HOOKtD WITH PALATAL HOOKtF WITH PALATAL HOOKtG WITH PALATAL HOOK
tK WITH PALATAL HOOKtL WITH PALATAL HOOKtM WITH PALATAL HOOKtN WITH PALATAL HOOK
tP WITH PALATAL HOOKtR WITH PALATAL HOOKtS WITH PALATAL HOOKtESH WITH PALATAL HOOK
tV WITH PALATAL HOOKtX WITH PALATAL HOOKtZ WITH PALATAL HOOKtA WITH RETROFLEX HOOK
uLPHA WITH RETROFLEX HOOKtD WITH HOOK AND TAILtE WITH RETROFLEX HOOKtOPEN E WITH RETROFLEX HOOK
tREVERSED OPEN E WITH RETROFLEX HOOKtSCHWA WITH RETROFLEX HOOKtI WITH RETROFLEX HOOK
tOPEN O WITH RETROFLEX HOOKtESH WITH RETROFLEX HOOKtU WITH RETROFLEX HOOKtEZH WITH RETROFLEX HOOK
aMODIFIER LETTER SMALL TURNED ALPHAwCx WITH CURLwETHwREVERSED OPEN EwFwDOTLESS J WITH STROKE
wSCRIPT GwTURNED HwI WITH STROKExOTAwCAPITAL Iζ WITH STROKEwJ WITH CROSSED-TAIL
wL WITH RETROFLEX HOOKδPALATAL HOOKwCAPITAL LwM WITH HOOKwTURNED M WITH LONG LEGwN WITH LEFT HOOK
δRETROFLEX HOOKwCAPITAL NwBARRED OwPHIwS WITH HOOKwESHwT WITH PALATAL HOOKwU BARxPSILONwCAPITAL U
wV WITH HOOKwTURNED VwZx WITH RETROFLEX HOOKδCURLwEZHwTHETAaCOMBINING DOTTED GRAVE ACCENT
rACUTE ACCENTkSNAKE BELOWlUSPENSION MARKkMACRON-ACUTEkGRAVE-MACRONkMACRON-GRAVEkACUTE-MACRON
kGRAVE-ACUTE-GRAVEkACUTE-GRAVE-ACUTEkLATIN SMALL LETTER R BELOWkBREVE-MACRONkMACRON-BREVE
kDOUBLE CIRCUMFLEX ABOVEkOGONEK ABOVEkZIGZAG BELOWkIS BELOWkUR ABOVElS ABOVE
kLATIN SMALL LETTER FLATTENED OPEN A ABOVEδAEεOεVδC CEDILLAδINSULAR DδETHδG
qLETTER SMALL CAPITAL GqSMALL LETTER KδLqLETTER SMALL CAPITAL LμMqSMALL LETTER N
qLETTER SMALL CAPITAL NμRqSMALL LETTER R ROTUNDAδSδLONG SδZδALPHAδBεETAδSCHWAδF
δL WITH DOUBLE MIDDLE TILDEδO WITH LIGHT CENTRALIZATION STROKEδPδESH
δU WITH LIGHT CENTRALIZATION STROKEδWδA WITH DIAERESISδO WITH DIAERESISδU WITH DIAERESIS
kUP TACK ABOVEkKAVYKA ABOVE RIGHTxLEFTkDOT ABOVE LEFTkWIDE INVERTED BRIDGE BELOWkDOT BELOW LEFT
lELETION MARKlOUBLE INVERTED BREVE BELOWkALMOST EQUAL TO BELOWkLEFT ARROWHEAD ABOVE
kRIGHT ARROWHEAD AND DOWN ARROWHEAD BELOWaLATIN CAPITAL LETTER A WITH RING BELOW
gSMALL LETTER A WITH RING BELOWgCAPITAL LETTER B WITH DOT ABOVEgSMALL LETTER B WITH DOT ABOVE
gCAPITAL LETTER B WITH DOT BELOWgSMALL LETTER B WITH DOT BELOWgCAPITAL LETTER B WITH LINE BELOW
gSMALL LETTER B WITH LINE BELOWgCAPITAL LETTER C WITH CEDILLA AND ACUTE
gSMALL LETTER C WITH CEDILLA AND ACUTEgCAPITAL LETTER D WITH DOT ABOVE
gSMALL LETTER D WITH DOT ABOVEgCAPITAL LETTER D WITH DOT BELOWgSMALL LETTER D WITH DOT BELOW
gCAPITAL LETTER D WITH LINE BELOWgSMALL LETTER D WITH LINE BELOWgCAPITAL LETTER D WITH CEDILLA
gSMALL LETTER D WITH CEDILLAgCAPITAL LETTER D WITH CIRCUMFLEX BELOW
gSMALL LETTER D WITH CIRCUMFLEX BELOWgCAPITAL LETTER E WITH MACRON AND GRAVE
gSMALL LETTER E WITH MACRON AND GRAVEgCAPITAL LETTER E WITH MACRON AND ACUTE
gSMALL LETTER E WITH MACRON AND ACUTEgCAPITAL LETTER E WITH CIRCUMFLEX BELOW
gSMALL LETTER E WITH CIRCUMFLEX BELOWgCAPITAL LETTER E WITH TILDE BELOW
gSMALL LETTER E WITH TILDE BELOWgCAPITAL LETTER E WITH CEDILLA AND BREVE
gSMALL LETTER E WITH CEDILLA AND BREVEgCAPITAL LETTER F WITH DOT ABOVE
gSMALL LETTER F WITH DOT ABOVEgCAPITAL LETTER G WITH MACRONgSMALL LETTER G WITH MACRON
gCAPITAL LETTER H WITH DOT ABOVEgSMALL LETTER H WITH DOT ABOVEgCAPITAL LETTER H WITH DOT BELOW
gSMALL LETTER H WITH DOT BELOWgCAPITAL LETTER H WITH DIAERESISgSMALL LETTER H WITH DIAERESIS
gCAPITAL LETTER H WITH CEDILLAgSMALL LETTER H WITH CEDILLAgCAPITAL LETTER H WITH BREVE BELOW
gSMALL LETTER H WITH BREVE BELOWgCAPITAL LETTER I WITH TILDE BELOW
gSMALL LETTER I WITH TILDE BELOWgCAPITAL LETTER I WITH DIAERESIS AND ACUTE
gSMALL LETTER I WITH DIAERESIS AND ACUTEgCAPITAL LETTER K WITH ACUTEgSMALL LETTER K WITH ACUTE
gCAPITAL LETTER K WITH DOT BELOWgSMALL LETTER K WITH DOT BELOWgCAPITAL LETTER K WITH LINE BELOW
gSMALL LETTER K WITH LINE BELOWgCAPITAL LETTER L WITH DOT BELOWgSMALL LETTER L WITH DOT BELOW
gCAPITAL LETTER L WITH DOT BELOW AND MACRONgSMALL LETTER L WITH DOT BELOW AND MACRON
gCAPITAL LETTER L WITH LINE BELOWgSMALL LETTER L WITH LINE BELOW
gCAPITAL LETTER L WITH CIRCUMFLEX BELOWgSMALL LETTER L WITH CIRCUMFLEX BELOW
gCAPITAL LETTER M WITH ACUTEgSMALL LETTER M WITH ACUTEgCAPITAL LETTER M WITH DOT ABOVE
gSMALL LETTER M WITH DOT ABOVEgCAPITAL LETTER M WITH DOT BELOWgSMALL LETTER M WITH DOT BELOW
gCAPITAL LETTER N WITH DOT ABOVEgSMALL LETTER N WITH DOT ABOVEgCAPITAL LETTER N WITH DOT BELOW
gSMALL LETTER N WITH DOT BELOWgCAPITAL LETTER N WITH LINE BELOWgSMALL LETTER N WITH LINE BELOW
gCAPITAL LETTER N WITH CIRCUMFLEX BELOWgSMALL LETTER N WITH CIRCUMFLEX BELOW
gCAPITAL LETTER O WITH TILDE AND ACUTEgSMALL LETTER O WITH TILDE AND ACUTE
gCAPITAL LETTER O WITH TILDE AND DIAERESISgSMALL LETTER O WITH TILDE AND DIAERESIS
gCAPITAL LETTER O WITH MACRON AND GRAVEgSMALL LETTER O WITH MACRON AND GRAVE
gCAPITAL LETTER O WITH MACRON AND ACUTEgSMALL LETTER O WITH MACRON AND ACUTE
gCAPITAL LETTER P WITH ACUTEgSMALL LETTER P WITH ACUTEgCAPITAL LETTER P WITH DOT ABOVE
gSMALL LETTER P WITH DOT ABOVEgCAPITAL LETTER R WITH DOT ABOVEgSMALL LETTER R WITH DOT ABOVE
gCAPITAL LETTER R WITH DOT BELOWgSMALL LETTER R WITH DOT BELOW
gCAPITAL LETTER R WITH DOT BELOW AND MACRONgSMALL LETTER R WITH DOT BELOW AND MACRON
gCAPITAL LETTER R WITH LINE BELOWgSMALL LETTER R WITH LINE BELOWgCAPITAL LETTER S WITH DOT ABOVE
gSMALL LETTER S WITH DOT ABOVEgCAPITAL LETTER S WITH DOT BELOWgSMALL LETTER S WITH DOT BELOW
gCAPITAL LETTER S WITH ACUTE AND DOT ABOVEgSMALL LETTER S WITH ACUTE AND DOT ABOVE
gCAPITAL LETTER S WITH CARON AND DOT ABOVEgSMALL LETTER S WITH CARON AND DOT ABOVE
gCAPITAL LETTER S WITH DOT BELOW AND DOT ABOVEgSMALL LETTER S WITH DOT BELOW AND DOT ABOVE
gCAPITAL LETTER T WITH DOT ABOVEgSMALL LETTER T WITH DOT ABOVEgCAPITAL LETTER T WITH DOT BELOW
gSMALL LETTER T WITH DOT BELOWgCAPITAL LETTER T WITH LINE BELOWgSMALL LETTER T WITH LINE BELOW
gCAPITAL LETTER T WITH CIRCUMFLEX BELOWgSMALL LETTER T WITH CIRCUMFLEX BELOW
gCAPITAL LETTER U WITH DIAERESIS BELOWgSMALL LETTER U WITH DIAERESIS BELOW
gCAPITAL LETTER U WITH TILDE BELOWgSMALL LETTER U WITH TILDE BELOW
gCAPITAL LETTER U WITH CIRCUMFLEX BELOWgSMALL LETTER U WITH CIRCUMFLEX BELOW
gCAPITAL LETTER U WITH TILDE AND ACUTEgSMALL LETTER U WITH TILDE AND ACUTE
gCAPITAL LETTER U WITH MACRON AND DIAERESISgSMALL LETTER U WITH MACRON AND DIAERESIS
gCAPITAL LETTER V WITH TILDEgSMALL LETTER V WITH TILDEgCAPITAL LETTER V WITH DOT BELOW
gSMALL LETTER V WITH DOT BELOWgCAPITAL LETTER W WITH GRAVEgSMALL LETTER W WITH GRAVE
gCAPITAL LETTER W WITH ACUTEgSMALL LETTER W WITH ACUTEgCAPITAL LETTER W WITH DIAERESIS
gSMALL LETTER W WITH DIAERESISgCAPITAL LETTER W WITH DOT ABOVEgSMALL LETTER W WITH DOT ABOVE
gCAPITAL LETTER W WITH DOT BELOWgSMALL LETTER W WITH DOT BELOWgCAPITAL LETTER X WITH DOT ABOVE
gSMALL LETTER X WITH DOT ABOVEgCAPITAL LETTER X WITH DIAERESISgSMALL LETTER X WITH DIAERESIS
gCAPITAL LETTER Y WITH DOT ABOVEgSMALL LETTER Y WITH DOT ABOVEgCAPITAL LETTER Z WITH CIRCUMFLEX
gSMALL LETTER Z WITH CIRCUMFLEXgCAPITAL LETTER Z WITH DOT BELOWgSMALL LETTER Z WITH DOT BELOW
gCAPITAL LETTER Z WITH LINE BELOWgSMALL LETTER Z WITH LINE BELOWtH WITH LINE BELOW
tT WITH DIAERESIStW WITH RING ABOVEtY WITH RING ABOVEtA WITH RIGHT HALF RING
tLONG S WITH DOT ABOVEηIAGONAL STROKEζHIGH STROKEgCAPITAL LETTER SHARP SgSMALL LETTER DELTA
gCAPITAL LETTER A WITH DOT BELOWgSMALL LETTER A WITH DOT BELOWgCAPITAL LETTER A WITH HOOK ABOVE
gSMALL LETTER A WITH HOOK ABOVEgCAPITAL LETTER A WITH CIRCUMFLEX AND ACUTE
gSMALL LETTER A WITH CIRCUMFLEX AND ACUTEgCAPITAL LETTER A WITH CIRCUMFLEX AND GRAVE
gSMALL LETTER A WITH CIRCUMFLEX AND GRAVEgCAPITAL LETTER A WITH CIRCUMFLEX AND HOOK ABOVE
gSMALL LETTER A WITH CIRCUMFLEX AND HOOK ABOVEgCAPITAL LETTER A WITH CIRCUMFLEX AND TILDE
gSMALL LETTER A WITH CIRCUMFLEX AND TILDEgCAPITAL LETTER A WITH CIRCUMFLEX AND DOT BELOW
gSMALL LETTER A WITH CIRCUMFLEX AND DOT BELOWgCAPITAL LETTER A WITH BREVE AND ACUTE
gSMALL LETTER A WITH BREVE AND ACUTEgCAPITAL LETTER A WITH BREVE AND GRAVE
gSMALL LETTER A WITH BREVE AND GRAVEgCAPITAL LETTER A WITH BREVE AND HOOK ABOVE
gSMALL LETTER A WITH BREVE AND HOOK ABOVEgCAPITAL LETTER A WITH BREVE AND TILDE
gSMALL LETTER A WITH BREVE AND TILDEgCAPITAL LETTER A WITH BREVE AND DOT BELOW
gSMALL LETTER A WITH BREVE AND DOT BELOWgCAPITAL LETTER E WITH DOT BELOW
gSMALL LETTER E WITH DOT BELOWgCAPITAL LETTER E WITH HOOK ABOVEgSMALL LETTER E WITH HOOK ABOVE
gCAPITAL LETTER E WITH TILDEgSMALL LETTER E WITH TILDEgCAPITAL LETTER E WITH CIRCUMFLEX AND ACUTE
gSMALL LETTER E WITH CIRCUMFLEX AND ACUTEgCAPITAL LETTER E WITH CIRCUMFLEX AND GRAVE
gSMALL LETTER E WITH CIRCUMFLEX AND GRAVEgCAPITAL LETTER E WITH CIRCUMFLEX AND HOOK ABOVE
gSMALL LETTER E WITH CIRCUMFLEX AND HOOK ABOVEgCAPITAL LETTER E WITH CIRCUMFLEX AND TILDE
gSMALL LETTER E WITH CIRCUMFLEX AND TILDEgCAPITAL LETTER E WITH CIRCUMFLEX AND DOT BELOW
gSMALL LETTER E WITH CIRCUMFLEX AND DOT BELOWgCAPITAL LETTER I WITH HOOK ABOVE
gSMALL LETTER I WITH HOOK ABOVEgCAPITAL LETTER I WITH DOT BELOWgSMALL LETTER I WITH DOT BELOW
gCAPITAL LETTER O WITH DOT BELOWgSMALL LETTER O WITH DOT BELOWgCAPITAL LETTER O WITH HOOK ABOVE
gSMALL LETTER O WITH HOOK ABOVEgCAPITAL LETTER O WITH CIRCUMFLEX AND ACUTE
gSMALL LETTER O WITH CIRCUMFLEX AND ACUTEgCAPITAL LETTER O WITH CIRCUMFLEX AND GRAVE
gSMALL LETTER O WITH CIRCUMFLEX AND GRAVEgCAPITAL LETTER O WITH CIRCUMFLEX AND HOOK ABOVE
gSMALL LETTER O WITH CIRCUMFLEX AND HOOK ABOVEgCAPITAL LETTER O WITH CIRCUMFLEX AND TILDE
gSMALL LETTER O WITH CIRCUMFLEX AND TILDEgCAPITAL LETTER O WITH CIRCUMFLEX AND DOT BELOW
gSMALL LETTER O WITH CIRCUMFLEX AND DOT BELOWgCAPITAL LETTER O WITH HORN AND ACUTE
gSMALL LETTER O WITH HORN AND ACUTEgCAPITAL LETTER O WITH HORN AND GRAVE
gSMALL LETTER O WITH HORN AND GRAVEgCAPITAL LETTER O WITH HORN AND HOOK ABOVE
gSMALL LETTER O WITH HORN AND HOOK ABOVEgCAPITAL LETTER O WITH HORN AND TILDE
gSMALL LETTER O WITH HORN AND TILDEgCAPITAL LETTER O WITH HORN AND DOT BELOW
gSMALL LETTER O WITH HORN AND DOT BELOWgCAPITAL LETTER U WITH DOT BELOW
gSMALL LETTER U WITH DOT BELOWgCAPITAL LETTER U WITH HOOK ABOVEgSMALL LETTER U WITH HOOK ABOVE
gCAPITAL LETTER U WITH HORN AND ACUTEgSMALL LETTER U WITH HORN AND ACUTE
gCAPITAL LETTER U WITH HORN AND GRAVEgSMALL LETTER U WITH HORN AND GRAVE
gCAPITAL LETTER U WITH HORN AND HOOK ABOVEgSMALL LETTER U WITH HORN AND HOOK ABOVE
gCAPITAL LETTER U WITH HORN AND TILDEgSMALL LETTER U WITH HORN AND TILDE
gCAPITAL LETTER U WITH HORN AND DOT BELOWgSMALL LETTER U WITH HORN AND DOT BELOW
gCAPITAL LETTER Y WITH GRAVEgSMALL LETTER Y WITH GRAVEgCAPITAL LETTER Y WITH DOT BELOW
gSMALL LETTER Y WITH DOT BELOWgCAPITAL LETTER Y WITH HOOK ABOVEgSMALL LETTER Y WITH HOOK ABOVE
gCAPITAL LETTER Y WITH TILDEgSMALL LETTER Y WITH TILDEgCAPITAL LETTER MIDDLE-WELSH LL
gSMALL LETTER MIDDLE-WELSH LLgCAPITAL LETTER MIDDLE-WELSH VgSMALL LETTER MIDDLE-WELSH V
gCAPITAL LETTER Y WITH LOOPgSMALL LETTER Y WITH LOOPaGREEK SMALL LETTER ALPHA WITH PSILIεDASIA
εPSILI AND VARIAεDASIA AND VARIAεPSILI AND OXIAεDASIA AND OXIAεPSILI AND PERISPOMENI
εDASIA AND PERISPOMENIgCAPITAL LETTER ALPHA WITH PSILIηDASIAηPSILI AND VARIAηDASIA AND VARIA
ηPSILI AND OXIAηDASIA AND OXIAηPSILI AND PERISPOMENIηDASIA AND PERISPOMENI
gSMALL LETTER EPSILON WITH PSILIηDASIAηPSILI AND VARIAηDASIA AND VARIAηPSILI AND OXIA
ηDASIA AND OXIA"),
   (0x1F18, "aGREEK CAPITAL LETTER EPSILON WITH PSILIιDASIAιPSILI AND VARIAιDASIA AND VARIA
ιPSILI AND OXIAιDASIA AND OXIA"),
   (0x1F20, "aGREEK SMALL LETTER ETA WITH PSILIγDASIAγPSILI AND VARIAγDASIA AND VARIA
γPSILI AND OXIAγDASIA AND OXIAγPSILI AND PERISPOMENIγDASIA AND PERISPOMENI
gCAPITAL LETTER ETA WITH PSILIεDASIAεPSILI AND VARIAεDASIA AND VARIAεPSILI AND OXIA
εDASIA AND OXIAεPSILI AND PERISPOMENIεDASIA AND PERISPOMENIgSMALL LETTER IOTA WITH PSILIδDASIA
δPSILI AND VARIAδDASIA AND VARIAδPSILI AND OXIAδDASIA AND OXIAδPSILI AND PERISPOMENI
δDASIA AND PERISPOMENIgCAPITAL LETTER IOTA WITH PSILIζDASIAζPSILI AND VARIAζDASIA AND VARIA
ζPSILI AND OXIAζDASIA AND OXIAζPSILI AND PERISPOMENIζDASIA AND PERISPOMENI
gSMALL LETTER OMICRON WITH PSILIηDASIAηPSILI AND VARIAηDASIA AND VARIAηPSILI AND OXIA
ηDASIA AND OXIA"),
   (0x1F48, "aGREEK CAPITAL LETTER OMICRON WITH PSILIιDASIAιPSILI AND VARIAιDASIA AND VARIA
ιPSILI AND OXIAιDASIA AND OXIA"),
   (0x1F50, "aGREEK SMALL LETTER UPSILON WITH PSILIηDASIAηPSILI AND VARIAηDASIA AND VARIA
ηPSILI AND OXIAηDASIA AND OXIAηPSILI AND PERISPOMENIηDASIA AND PERISPOMENI"),
   (0x1F59, "aGREEK CAPITAL LETTER UPSILON WITH DASIA"),
   (0x1F5B, "aGREEK CAPITAL LETTER UPSILON WITH DASIA AND VARIA"),
   (0x1F5D, "aGREEK CAPITAL LETTER UPSILON WITH DASIA AND OXIA"),
   (0x1F5F, "aGREEK CAPITAL LETTER UPSILON WITH DASIA AND PERISPOMENI
gSMALL LETTER OMEGA WITH PSILIεDASIAεPSILI AND VARIAεDASIA AND VARIAεPSILI AND OXIA
εDASIA AND OXIAεPSILI AND PERISPOMENIεDASIA AND PERISPOMENIgCAPITAL LETTER OMEGA WITH PSILIηDASIA
ηPSILI AND VARIAηDASIA AND VARIAηPSILI AND OXIAηDASIA AND OXIAηPSILI AND PERISPOMENI
ηDASIA AND PERISPOMENIgSMALL LETTER ALPHA WITH VARIAεOXIAtEPSILON WITH VARIAηOXIAuTA WITH VARIA
γOXIAtIOTA WITH VARIAδOXIAtOMICRON WITH VARIAηOXIAtUPSILON WITH VARIAηOXIAtOMEGA WITH VARIAεOXIA"),
   (0x1F80, "aGREEK SMALL LETTER ALPHA WITH PSILI AND YPOGEGRAMMENIεDASIA AND YPOGEGRAMMENI
εPSILI AND VARIA AND YPOGEGRAMMENIεDASIA AND VARIA AND YPOGEGRAMMENI
εPSILI AND OXIA AND YPOGEGRAMMENIεDASIA AND OXIA AND YPOGEGRAMMENI
εPSILI AND PERISPOMENI AND YPOGEGRAMMENIεDASIA AND PERISPOMENI AND YPOGEGRAMMENI
gCAPITAL LETTER ALPHA WITH PSILI AND PROSGEGRAMMENIηDASIA AND PROSGEGRAMMENI
ηPSILI AND VARIA AND PROSGEGRAMMENIηDASIA AND VARIA AND PROSGEGRAMMENI
ηPSILI AND OXIA AND PROSGEGRAMMENIηDASIA AND OXIA AND PROSGEGRAMMENI
ηPSILI AND PERISPOMENI AND PROSGEGRAMMENIηDASIA AND PERISPOMENI AND PROSGEGRAMMENI
gSMALL LETTER ETA WITH PSILI AND YPOGEGRAMMENIγDASIA AND YPOGEGRAMMENI
γPSILI AND VARIA AND YPOGEGRAMMENIγDASIA AND VARIA AND YPOGEGRAMMENI
γPSILI AND OXIA AND YPOGEGRAMMENIγDASIA AND OXIA AND YPOGEGRAMMENI
γPSILI AND PERISPOMENI AND YPOGEGRAMMENIγDASIA AND PERISPOMENI AND YPOGEGRAMMENI
gCAPITAL LETTER ETA WITH PSILI AND PROSGEGRAMMENIεDASIA AND PROSGEGRAMMENI
εPSILI AND VARIA AND PROSGEGRAMMENIεDASIA AND VARIA AND PROSGEGRAMMENI
εPSILI AND OXIA AND PROSGEGRAMMENIεDASIA AND OXIA AND PROSGEGRAMMENI
εPSILI AND PERISPOMENI AND PROSGEGRAMMENIεDASIA AND PERISPOMENI AND PROSGEGRAMMENI
gSMALL LETTER OMEGA WITH PSILI AND YPOGEGRAMMENIεDASIA AND YPOGEGRAMMENI
εPSILI AND VARIA AND YPOGEGRAMMENIεDASIA AND VARIA AND YPOGEGRAMMENI
εPSILI AND OXIA AND YPOGEGRAMMENIεDASIA AND OXIA AND YPOGEGRAMMENI
εPSILI AND PERISPOMENI AND YPOGEGRAMMENIεDASIA AND PERISPOMENI AND YPOGEGRAMMENI
gCAPITAL LETTER OMEGA WITH PSILI AND PROSGEGRAMMENIηDASIA AND PROSGEGRAMMENI
ηPSILI AND VARIA AND PROSGEGRAMMENIηDASIA AND VARIA AND PROSGEGRAMMENI
ηPSILI AND OXIA AND PROSGEGRAMMENIηDASIA AND OXIA AND PROSGEGRAMMENI
ηPSILI AND PERISPOMENI AND PROSGEGRAMMENIηDASIA AND PERISPOMENI AND PROSGEGRAMMENI
gSMALL LETTER ALPHA WITH VRACHYεMACRONεVARIA AND YPOGEGRAMMENIεYPOGEGRAMMENI
εOXIA AND YPOGEGRAMMENI"),
   (0x1FB6, "aGREEK SMALL LETTER ALPHA WITH PERISPOMENIπ AND YPOGEGRAMMENI
gCAPITAL LETTER ALPHA WITH VRACHYηMACRONηVARIAηOXIAηPROSGEGRAMMENIgKORONISgPROSGEGRAMMENIhSILI
hERISPOMENIgDIALYTIKA AND PERISPOMENIgSMALL LETTER ETA WITH VARIA AND YPOGEGRAMMENIγYPOGEGRAMMENI
γOXIA AND YPOGEGRAMMENI"),
   (0x1FC6, "aGREEK SMALL LETTER ETA WITH PERISPOMENIξ AND YPOGEGRAMMENI
gCAPITAL LETTER EPSILON WITH VARIAιOXIAwTA WITH VARIAεOXIAεPROSGEGRAMMENIgPSILI AND VARIAqOXIA
qPERISPOMENIgSMALL LETTER IOTA WITH VRACHYδMACRONδDIALYTIKA AND VARIAςOXIA"),
   (0x1FD6, "aGREEK SMALL LETTER IOTA WITH PERISPOMENIδDIALYTIKA AND PERISPOMENI
gCAPITAL LETTER IOTA WITH VRACHYζMACRONζVARIAζOXIA"),
   (0x1FDD, "aGREEK DASIA AND VARIAqOXIAqPERISPOMENIgSMALL LETTER UPSILON WITH VRACHYηMACRON
ηDIALYTIKA AND VARIAυOXIAtRHO WITH PSILIγDASIAtUPSILON WITH PERISPOMENIηDIALYTIKA AND PERISPOMENI
gCAPITAL LETTER UPSILON WITH VRACHYιMACRONιVARIAιOXIAvRHO WITH DASIAgDIALYTIKA AND VARIAuOXIA
gVARIA"),
   (0x1FF2, "aGREEK SMALL LETTER OMEGA WITH VARIA AND YPOGEGRAMMENIεYPOGEGRAMMENI
εOXIA AND YPOGEGRAMMENI"),
   (0x1FF6, "aGREEK SMALL LETTER OMEGA WITH PERISPOMENIπ AND YPOGEGRAMMENI
gCAPITAL LETTER OMICRON WITH VARIAιOXIAxEGA WITH VARIAηOXIAηPROSGEGRAMMENIgOXIAgDASIA")]

end DocBraces.Text
