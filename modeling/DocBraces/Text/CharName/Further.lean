/-!
# Names of characters: hieroglyphic and further scripts

Rows of names of consecutive code points, each row with its first code point. A name
is written as a mark and a tail: the mark says how many characters it shares with the
name before it.
-/

set_option autoImplicit false

namespace DocBraces.Text

def furtherNames : List (Nat × String) :=
  [(0x16800, "aBAMUM LETTER PHASE-A NGKUE MFONvGBIEE FONvPON MFON PIPAEMGBIEEλBAvNAA MFON
vSHUENSHUETvTITA MFONvNZA MFONvSHINDA PA NJIvPON PA NJI PIPAEMGBIEEνBAvMAEMBGBIEEvTU MAEMBA
vNGANGUvMAEMVEUXxNSUAEwVEUAENGAMvSEUNYAMvNTOQPENvKEUKEUTNDAvNKINDIvSUUvNGKUENZEUMvLAPAQwET KUT
vNTAP MFAAvMAEKEUPvPASHAEvGHEUAERAEvPAMSHAEvMON NGGEUAETvNZUN MEUTvU YUQ NAEvGHEUAEGHEUAE
vNTAP NTAAvSISAvMGBASAwEUNJOMNDEUQwOOMPUQvKAFAvPA LEERAEWAvNDA LEERAEWAvPETvMAEMKPENvNIKAvPUP
vTUAEPvLUAEPvSONJAMvTEUTEUWENvMAENYIvKETvNDAANGGEUAETvKUOQvMOOMEUTvSHUMvLOMMAEvFIRIvROMvKPOQvSOQ
vMAP PIEETvSHIRAEvNTAPvSHOQ NSHUT YUMvNYIT MONGKEUAEQvPAARAEvNKAARAEvUNKNOWNvNGGENvMAESIvNJAM
vMBANYIvNYETvTEUAENvSOTvPAAMvNSHIEEvMAEMvNYIvKAQvNSHAvVEEvLUvNENwAQvMBAQtB NSHUETvTU MAEMGBIEE
vSIEEwET TUvLOM NTEUMvMBA MAELEEvKIEEMvYEURAEvMBAARAEvKAMvPEESHIvYAFU LEERAEWAvLAM NSHUT NYAM
vNTIEE SHEUOQwDU NJAAvGHEUGHEUAEMvPITvTU NSIEEvSHET NJAQyUAEQTUvMFON TEUAEQwBIT MBAAKETvNYI NTEUM
vKEUPUQvGHEUGHENvKEUYEUXvLAANAEvPARUMvVEUMvNGKINDI MVOPxGEU MBUvWUAETvSAKEUAEvTAAMvMEUQvNGGUOQ
β LARGEvMFIYAQvSUEvMBEURIwONTIEENvNYAEMAEvPUNGAAMvMEUT NGGEETvFEUXvMBUOQvFEEvKEUAEMvMA NJEUAENA
αUQAvLETvNGGAAMwSENvMAvKIQvNGOMtC NGKUE MAEMBAwZAvYUMvWANGKUOQvNGGENwDEUAEREEwGKAQvGHARAE
vMBEEKEETvGBAYIvNYIR MKPARAQ MEUNwTU MBITvMBEUMvPIRIEENvNDOMBUvMBAA CABBAGE-TREEvKEUSHEUAEPvGHAP
vKEUKAQvYU MUOMAEvNZEUMvMBUEvNSEUAENvMBITvYEUQvKPARAQwAAvSEUXvNDIDAvTAASHAEvNJUEQvTITA YUEvSUAET
vNGGUAEN NYAMvVEUXvNANSANAQvMA KEUAERIvNTAAwGGUONvLAPvMBIRIEENwGBASAQvNTEUNGBAvTEUTEUXvNGGUMvFUE
vNDEUTwSAxHAQvBUNGvVEUAEPENvMBERAEvRUvNJAEMvLAMvTITUAEPvNSUOT NGOMwJEEEEvKETvNGGUvMAESIwBUAEMvLU
vKUTvNJAMwGOMvWUPvNGGUEETwSOMwTENvKUOP NKAARAEvNSUNwDAMvMA NSIEEvYAAvNDAPvSHUEQwETFONvMBIwAEMBA
wBANYIvKEUSEUXvMBEUXvKEUMvMBAA PICKETvYUWOQvNJEUXvMIEEwUAEvSHIQvKEN LAWzFATIGUEvNGAQwAQvLIQvPIN
wENvTETtD MBUOvWAPvNJIvMFONvNJIEEvLIEEvNJEUTwSHEEwGGAAMAEwYAMvWUAENvNGKUNvSHEEvNGKAPvKEUAETMEUN
vTEUTvSHEUAEvNJAPvSUEvKETvYAEMMAEvKUOMvSAPvMFEUTvNDEUXvMALEERIwEUTvSEUAEQvYENvNJEUAEMvKEUOT MBUAE
vNGKEURIvTUvGHAAvNGKYEEvFEUFEUAETvNDEEvMGBOFUMvLEUAEPvNDONvMONIwGBEUNvPUUTvMGBIEEwFOvLUMvNSIEEP
vMBAAvKWAETvNYETvTEUAENvSOTvYUWOQvKEUMvRAEMvTEEEEvNGKEUAEQvMFEUAEvNSIEETvKEUPvPIPwEUTAEvNYUEvLET
vNGGAAMvMFIEEvNGGWAENvYUOMvPAPvYUOPvNDAMwTEUMvSUAEvKUNvNGGEUXxKIEEvTUOTvMEUNvKUQvNSUMvTEUN
vMAENJETvNGGAPvLEUMvNGGUOMwSHUTwJUEQvGHEUAEvKUvREN OLDvTAEwOQvNYIvRIIvLEEEEvMEEEEwvSUUvMUvSHII
xEUXvKYEEvNUvSHUvNTEEvPEEvNIvSHOQvPUQvMVOPvLOQvREN MUCHvTIvNTUUvMBAA SEVENvSAQvFAAtE NDAPvTOON
vMBEUMvLAPvVOMvLOONvPAAvSOMvRAQvNSHUOPwDUNvPUAEvTAMvNGKAvKPEUXvWUOvSEEvNGGEUAETvPAAMvTOOvKUOPvLOM
vNSHIEEwGOPvMAEMvNGKEUXxOQwSHUEvRIMGBAvNJEUXvPEEMvSAAvNGGURAEvMGBAvGHEUXvNGKEUAEMwJAEMLIvMAPvLOOT
vNGGEEEEwDIQvTAEN NTEUMvSETvPUMvNDAA SOFTNESSwGGUAESHAE NYAMvYIEEvGHEUNvTUAEvYEUAEvPOvTUMAEvKEUAE
vSUAENvTEUAEQvVEUAEvWEUXvLAAMvPUvTAAQvGHAAMAEvNGEUREUTvSHEUAEQvMGBENwBEEvNZAQwKOMvGBETvTUMvKUET
vYAPvNYI CLEAVERvYITvMFEUQvNDIAQvPIEEQvYUEQvLEUAEMvFUEvGBEUXvNGKUPvKETvMAEvNGKAAMIvGHETvFAvNTUM
vPEUTvYEUMvNGGEUAEwYI BETWEENwZUQvPOONvMIEEvFUETvNAEvMUAEvGHEUAEvFU IvMVIvPUAQvNGKUMvKUTvPIET
vNTAPvYEUAETvNGGUPvPA PEOPLEvFU CALLwOMvNJEEvAvTOQvOvIvLAQvPA PLURALvTAAxQvNDAA MY HOUSEvSHIQ
vYEUXvNGUAEvYUAENwOQ SWIMMINGzCOVERwUQxNvKEUXvPEUXvNJEE EPOCHvPUEvWUEvFEEvVEEvLUvMIvREUXwAE
vNGUAETxAvSHOyQvFU REMEDYvNAvPIvLOQvKOvMENwAxQvTEUvKIvMONvTENvFAQvGHOMtF KAvUvKUvEEvREEvTAEvNYI
vLAvRIIxEEvMEEEEvTAAvNDAAwJAEMvMvSUUwHIIwIwEUXvKYEEwETvNUAExwJUAEvYOQvSHUvYAvNSHAvPEUXvNTEEvWUE
vPEEvRUvNIvREUXvKENvNGKWAENxGAvSHOvPUAEvFOMvWAvLIwOQvKOvMBENvRENvMAwOwBAAvTETvKPAvSAMBAvVUEQ"),
   (0x16A40, "aMRO LETTER TAlNGIlYOlMIMlBAlDAlAlPHIlKHAIlHAOlDAIlCHUlKEAAElOLlMAEMlNINlPAlOOmlRO
lSHIlTHEAlEAlWAlElKOlLANnlHAIlRIlTEK"),
   (0x16A60, "aMRO DIGIT ZEROkONEkTWOlHREEkFOURlIVEkSIXlEVENkEIGHTkNINE"),
   (0x16A6E, "aMRO DANDAfOUBLE DANDAaTANGSA LETTER OZpCpQpXoAZpCpQpXoVZpCpQpXoEZpCpQpXoIZpCpQpX
oUZpCpQpXoAWZqCqQqXoUIZqCqQqXoFINAL NGoLONG UEXoSHORT UEZuAWXoUECqZqQqXpIUZrCrQrXoMZpCpQpXoKApHA
oGAoNGAoSAoYAoWAoPAoNYAoPHAoBAoMAoNAoHAoLAoHTAoTAoDAoRAoNHAoSHAoCAoTSAoGHAoHTTAoTHAoXAoFAoDHAoCHA
oZA"),
   (0x16AC0, "aTANGSA DIGIT ZEROnONEnTWOoHREEnFOURoIVEnSIXoEVENnEIGHTnNINE"),
   (0x16AD0, "aBASSA VAH LETTER ENNIrKArSErFArMBErYIErGAHrDHIIrKPAHrJOrHWAHrWArZOrGBUrDOrCErUWU
rTOrBArVUrYEINrPArWADDArArOsOrUrEEsrI"),
   (0x16AF0, "aBASSA VAH COMBINING HIGH TONEuLOW TONEuMID TONEuLOW-MID TONEuHIGH-LOW TONE
kFULL STOP"),
   (0x16B00, "aPAHAWH HMONG VOWEL KEEBwVuIBvVuAUBwVuUBvVuEBvVuAIBwVuOOBwVuAWBwVuUABwVuOBvVuIABwV
uABvVuWBvVuAABwVnCONSONANT VAUxNTSAUxLAUxHAUxNLAUxRAUxNKAUxQHAUxYAUxHLAUxMAUxCHAUxNCHAUxHNAU
xPLHAUxNTHAUyAUxAUxXAUxCAUnMARK CIM TUBwSOwKESxHAVwSUAMwHOMwTAUMnSIGN VOS THOMxSHAB CEEB
sCIM CHEEMsVOS THIABwFEEMsXYEEM NTXIVyRHOyTOVyFAIBsVOS SEEVsMEEJ SUABsVOS NRUAsIB YAMsXAUS
sCIM TSOV ROG"),
   (0x16B50, "aPAHAWH HMONG DIGIT ZEROtONEtTWOuHREEtFOURuIVEtSIXuEVENtEIGHTtNINE"),
   (0x16B5B, "aPAHAWH HMONG NUMBER TENSuHUNDREDSuTEN THOUSANDSuMILLIONSuHUNDRED MILLIONS
uTEN BILLIONSvRILLIONS"),
   (0x16B63, "aPAHAWH HMONG SIGN VOS LUBsXYOOsHLIsTHIRD-STAGE HLIsZWJ THAJsHNUBsNQIGsXIABsNTUJsAV
sTXHEEJ CEEVsMEEJ TSEEBsTAUsLOSsMUSsCIM HAIS LUS NTOG NTOGwCUAM TSHOOJwTXWVα CHWVwPUB DAWB
wNRES TOS"),
   (0x16B7D, "aPAHAWH HMONG CLAN SIGN TSHEEJxYEEGxLISyAUJxXYOOJxKOOxHAWJxMUASxTHOJySABxPHABxKHAB
xHAMxVAJxFAJxYAJxTSWBxKWMxVWJ"),
   (0x16E40, "aMEDEFAIDRIN CAPITAL LETTER MβSβVβWβATIUβZβKPβPβTβGβFβIβKβAβJβEβBβCβUβYUβLβQβHPβNY
βXβDβOEβNβRβOβAIβYmSMALL LETTER MzSzVzWzATIUzZzKPzPzTzGzFzIzKzAzJzEzBzCzUzYUzLzQzHPzNYzXzDzOEzNzR
zOzAIzYmDIGIT ZEROsONEsTWOtHREEsFOURtIVEsSIXtEVENsEIGHTsNINEmNUMBER TENtELEVENtTWELVEuHIRTEEN
tFOURTEENuIFTEENtSIXTEENuEVENTEENtEIGHTEENtNINETEENmDIGIT ONE ALTERNATE FORMsTWO ALTERNATE FORM
tHREE ALTERNATE FORMmCOMMAmFULL STOPmSYMBOL AIVAmEXCLAMATION OH"),
   (0x16F00, "aMIAO LETTER PAmBAmYI PAmPLAmMAnHAmARCHAIC MAmFAmVAnFAmTAmDAmYI TTAqAmTTAmDDAmNAnHA
mYI NNAmARCHAIC NAmNNAoHAmLAnYAnHAoYAmTLHAmDLHAmTLHYAmDLHYAmKAmGAmYI KAmQAnGAmNGAoHAmARCHAIC NGA
mHAmXAmGHAoHAmTSSAmDZZAmNYAoHAmTSHAmDZHAmYI TSHApDZHAmREFORMED TSHAmSHAnSAmZHAnSHAmTSAmDZAmYI TSA
mSAmZAnSAnZAoSAmARCHAIC ZZAmZZYAoSYAmWAmAHmHHAmBRImSYImDZYImTEnSEmRTE"),
   (0x16F4F, "aMIAO SIGN CONSONANT MODIFIER BARfLETTER NASALIZATIONfSIGN ASPIRATION
kREFORMED VOICINGtASPIRATIONfVOWEL SIGN ArArHHrNsGqOrOqWOrqErNsGqOEYqIrAsNtGrOrErIrUrNGqUrAsNtGrU
rEIrNGqYrIqAEsEqERRqROUNDED ERRqERqROUNDED ERqAIqEIqAUqOUqNrGqUOGqYUIqOGrERqVWqIGqEAqIONGqUI"),
   (0x16F8F, "aMIAO TONE RIGHTkTOP RIGHTkABOVEkBELOWfLETTER TONE-2r3r4r5r6r7r8mREFORMED TONE-1α2
α4α5α6α8"),
   (0x16FE0, "aTANGUT ITERATION MARKaNUSHU ITERATION MARKaOLD CHINESE HOOK MARKmITERATION MARK
aKHITAN SMALL SCRIPT FILLER"),
   (0x16FF0, "aVIETNAMESE ALTERNATE READING MARK CAιNHAY"),
   (0x18800, "aTANGUT COMPONENT-001t2t3t4t5t6t7t8t9s10t1t2t3t4t5t6t7t8t9s20t1t2t3t4t5t6t7t8t9s30
t1t2t3t4t5t6t7t8t9s40t1t2t3t4t5t6t7t8t9s50t1t2t3t4t5t6t7t8t9s60t1t2t3t4t5t6t7t8t9s70t1t2t3t4t5t6
t7t8t9s80t1t2t3t4t5t6t7t8t9s90t1t2t3t4t5t6t7t8t9r100t1t2t3t4t5t6t7t8t9s10t1t2t3t4t5t6t7t8t9s20t1
t2t3t4t5t6t7t8t9s30t1t2t3t4t5t6t7t8t9s40t1t2t3t4t5t6t7t8t9s50t1t2t3t4t5t6t7t8t9s60t1t2t3t4t5t6t7
t8t9s70t1t2t3t4t5t6t7t8t9s80t1t2t3t4t5t6t7t8t9s90t1t2t3t4t5t6t7t8t9r200t1t2t3t4t5t6t7t8t9s10t1t2
t3t4t5t6t7t8t9s20t1t2t3t4t5t6t7t8t9s30t1t2t3t4t5t6t7t8t9s40t1t2t3t4t5t6t7t8t9s50t1t2t3t4t5t6t7t8
t9s60t1t2t3t4t5t6t7t8t9s70t1t2t3t4t5t6t7t8t9s80t1t2t3t4t5t6t7t8t9s90t1t2t3t4t5t6t7t8t9r300t1t2t3
t4t5t6t7t8t9s10t1t2t3t4t5t6t7t8t9s20t1t2t3t4t5t6t7t8t9s30t1t2t3t4t5t6t7t8t9s40t1t2t3t4t5t6t7t8t9
s50t1t2t3t4t5t6t7t8t9s60t1t2t3t4t5t6t7t8t9s70t1t2t3t4t5t6t7t8t9s80t1t2t3t4t5t6t7t8t9s90t1t2t3t4t5
t6t7t8t9r400t1t2t3t4t5t6t7t8t9s10t1t2t3t4t5t6t7t8t9s20t1t2t3t4t5t6t7t8t9s30t1t2t3t4t5t6t7t8t9s40
t1t2t3t4t5t6t7t8t9s50t1t2t3t4t5t6t7t8t9s60t1t2t3t4t5t6t7t8t9s70t1t2t3t4t5t6t7t8t9s80t1t2t3t4t5t6
t7t8t9s90t1t2t3t4t5t6t7t8t9r500t1t2t3t4t5t6t7t8t9s10t1t2t3t4t5t6t7t8t9s20t1t2t3t4t5t6t7t8t9s30t1
t2t3t4t5t6t7t8t9s40t1t2t3t4t5t6t7t8t9s50t1t2t3t4t5t6t7t8t9s60t1t2t3t4t5t6t7t8t9s70t1t2t3t4t5t6t7
t8t9s80t1t2t3t4t5t6t7t8t9s90t1t2t3t4t5t6t7t8t9r600t1t2t3t4t5t6t7t8t9s10t1t2t3t4t5t6t7t8t9s20t1t2
t3t4t5t6t7t8t9s30t1t2t3t4t5t6t7t8t9s40t1t2t3t4t5t6t7t8t9s50t1t2t3t4t5t6t7t8t9s60t1t2t3t4t5t6t7t8
t9s70t1t2t3t4t5t6t7t8t9s80t1t2t3t4t5t6t7t8t9s90t1t2t3t4t5t6t7t8t9r700t1t2t3t4t5t6t7t8t9s10t1t2t3
t4t5t6t7t8t9s20t1t2t3t4t5t6t7t8t9s30t1t2t3t4t5t6t7t8t9s40t1t2t3t4t5t6t7t8t9s50t1t2t3t4t5t6t7t8t9
s60t1t2t3t4t5t6t7t8"),
   (0x1AFF0, "aKATAKANA LETTER MINNAN TONE-2γ3γ4γ5"),
   (0x1AFF5, "aKATAKANA LETTER MINNAN TONE-7γ8xNASALIZED TONE-1ν2ν3ν4ν5"),
   (0x1AFFD, "aKATAKANA LETTER MINNAN NASALIZED TONE-7ν8"),
   (0x1B000, "aKATAKANA LETTER ARCHAIC EaHIRAGANA LETTER ARCHAIC YEbENTAIGANA LETTER A-1u2u3uWO
sI-1u2u3u4sU-1u2u3u4u5sE-2u3u4u5u6sO-1u2u3sKA-1v2v3v4v5v6v7v8v9v10w1vKEtI-1v2v3v4v5v6v7v8tU-1v2v3
v4v5v6v7tE-1v2v3v4v5v6tO-1v2v3vKIsSA-1v2v3v4v5v6v7v8tI-1v2v3v4v5v6tU-1v2v3v4v5v6v7v8tE-1v2v3v4v5
tO-1v2v3v4v5v6v7sTA-1v2v3v4tI-1v2v3v4v5v6v7tU-1v2v3v4vTOtE-1v2v3v4v5v6v7v8v9tO-1v2v3v4v5v6vRA
sNA-1v2v3v4v5v6v7v8v9tI-1v2v3v4v5v6v7vTEtU-1v2v3tE-1v2v3v4v5v6vKOtO-1v2v3v4v5sHA-1v2v3v4v5v6v7v8
v9v10w1tI-1v2v3v4v5v6v7tU-1v2v3tE-1v2v3v4v5v6v7tO-1v2v3v4v5v6v7v8sMA-1v2v3v4v5v6v7tI-1v2v3v4v5v6
v7tU-1v2v3v4tE-1v2vMAtO-1v2v3v4v5v6sYA-1v2v3v4v5vYOtU-1v2v3v4tO-1v2v3v4v5v6sRA-1v2v3v4tI-1v2v3v4
v5v6v7tU-1v2v3v4v5v6tE-1v2v3v4tO-1v2v3v4v5v6sWA-1v2v3v4v5tI-1v2v3v4v5tE-1v2v3v4tO-1v2v3v4v5v6v7
sN-MU-MO-1α2bIRAGANA LETTER ARCHAIC WUaKATAKANA LETTER ARCHAIC YIzEyWU"),
   (0x1B150, "aHIRAGANA LETTER SMALL WIxExO"),
   (0x1B164, "aKATAKANA LETTER SMALL WIxExOwN"),
   (0x1BC00, "aDUPLOYAN LETTER HqXqPqTqFqKqLqBqDqVqGqRqP NqD SqF NqK MqR SqTHqSLOAN DHqDHqKK
qSLOAN JqHLqLHqRHqMqNqJqSqM NqN MqJ MqS JqM WITH DOTqN WITH DOTqJ WITH DOTαS INSIDE AND ABOVE
qS WITH DOTα BELOWqM SqN SqJ SqS SqM N SqN M SqJ M SqS J SqJ S WITH DOTsNt SqS Tt RsPt RqT SsR S
qWrHr RqS NsMqK R SqG R SqS Kt RqAqSLOAN OWqOArqAOUqIqEqIEqSHORT IqUIqEEqSLOAN EHqROMANIAN I
qSLOAN EEqLONG IqYEqUqEUqXWqU NqLONG UqROMANIAN UqUHqSLOAN UqOOHrWrUqWArOrIrEIrOWqNASAL UwOwIwA
qPERNIN ANyMqSLOAN ENwANwONqVOCALIC M"),
   (0x1BC70, "aDUPLOYAN AFFIX LEFT HORIZONTAL SECANTpMID HORIZONTAL SECANT
pRIGHT HORIZONTAL SECANTpLOW VERTICAL SECANTpMID VERTICAL SECANTpHIGH VERTICAL SECANT
pATTACHED SECANTyLEFT-TO-RIGHT SECANTyTANGENTαILyE HOOKyI HOOKyTANGENT HOOK"),
   (0x1BC80, "aDUPLOYAN AFFIX HIGH ACUTEuTIGHT ACUTEuGRAVEuLONG GRAVEuDOTuCIRCLEuLINEuWAVE
uVERTICAL"),
   (0x1BC90, "aDUPLOYAN AFFIX LOW ACUTEtTIGHT ACUTEtGRAVEtLONG GRAVEtDOTtCIRCLEtLINEtWAVE
tVERTICALtARROW"),
   (0x1BC9C, "aDUPLOYAN SIGN O WITH CROSSjTHICK LETTER SELECTORjDOUBLE MARK
jPUNCTUATION CHINOOK FULL STOPaSHORTHAND FORMAT LETTER OVERLAPrCONTINUING OVERLAPrDOWN STEP
rUP STEP"),
   (0x1CF00, "aZNAMENNY COMBINING MARK GORAZDO NIZKO S KRYZHEM ON LEFTyNIZKO S KRYZHEM ON LEFT
yTSATA ON LEFTyGORAZDO NIZKO ON LEFTyNIZKO ON LEFTySREDNE ON LEFTyMALO POVYSHE ON LEFT
yPOVYSHE ON LEFTyVYSOKO ON LEFTyMALO POVYSHE S KHOKHLOM ON LEFTyPOVYSHE S KHOKHLOM ON LEFT
yVYSOKO S KHOKHLOM ON LEFTyGORAZDO NIZKO S KRYZHEM ON RIGHTyNIZKO S KRYZHEM ON RIGHT
yTSATA ON RIGHTyGORAZDO NIZKO ON RIGHTyNIZKO ON RIGHTySREDNE ON RIGHTyMALO POVYSHE ON RIGHT
yPOVYSHE ON RIGHTyVYSOKO ON RIGHTyMALO POVYSHE S KHOKHLOM ON RIGHTyPOVYSHE S KHOKHLOM ON RIGHT
yVYSOKO S KHOKHLOM ON RIGHTyTSATA S KRYZHEMyMALO POVYSHE S KRYZHEMySTRANNO MALO POVYSHE
yPOVYSHE S KRYZHEMθTRANNOyVYSOKO S KRYZHEMyMALO POVYSHE STRANNOyGORAZDO VYSOKOyZELOyONyRAVNO
yTIKHAYAyBORZAYAyUDARKAyPODVERTKAyLOMKAyKUPNAYAzACHKAyZEVOKySKOBAyRAZSEKAyKRYZH ON LEFT"),
   (0x1CF30, "aZNAMENNY COMBINING TONAL RANGE MARK MRACHNOλSVETLOλTRESVETLOtMARK ZADERZHKA
yDEMESTVENNY ZADERZHKAyOTSECHKAyPODCHASHIEι WITH VERTICAL STROKEyCHASHKAζ POLNAYAyOBLACHKO
ySOROCHYA NOZHKAyTOCHKAyDVOETOCHIEtATTACHING VERTICAL OMETtMARK CURVED OMETyKRYZH
tLOWER TONAL RANGE INDICATORjPRIZNAK MODIFIER LEVEL-2η3αDIRECTION FLIPαKRYZHαROG"),
   (0x1CF50, "aZNAMENNY NEUME KRYUKu TIKHYpPARAKLITpDVA V CHELNUpKLYUCHpZANOZHEKpSTOPITSA
x S OCHKOMpPEREVODKAy NEPOSTOYANNAYApSTOPITSA WITH SOROCHYA NOZHKApCHELYUSTKApPALKApZAPYATAYA
pGOLUBCHIK BORZYzTIKHYzMRACHNYzSVETLYzTRESVETLYpVRAKHIYA PROSTAYAyMRACHNAYAySVETLAYAyTRESVETLAYA
yKLYUCHEVAYA PROSTAYAλMRACHNAYAλSVETLAYAλTRESVETLAYApDOUBLE ZAPYATAYApREVERSED CHELYUSTKA
pDERBITSApKHAMILOpCHASHKApPODCHASHIEpSKAMEYTSA MRACHNAYAzSVETLAYAzTRESVETLAYAαIKHAYA
pDEMESTVENNY KLYUCHpSKAMEYTSA KLYUCHEVAYA SVETLAYAηNEPOSTOYANNAYAηVAYA TIKHAYA
zDVOECHELNAYA PROSTAYAνSVETLAYAνNEPOSTOYANNAYAνKLYUCHEVAYAqLOZHITIEy S ZAPYATOYzZAKRYTOE
zS KRYZHEMpKRYZHpROGpFITApKOBYLApZMEYTSApSTATYAv S ZAPYATOYyKRYZHEMyZAPYATOY I KRYZHEM
yKRYZHEM I ZAPYATOYwZAKRYTAYAζ S ZAPYATOYwS ROGOMyDVUMYA ZAPYATYMIyZAPYATOY I PODCHASHIEM
pPOLKULIZMYpSTATYA NEPOSTOYANNAYArRELA PROSTAYAwMRACHNOTIKHAYAwKRYZHEVAYAwPOLUPOVODNAYAyVODNAYA
wNEPOSTOYANNAYAwKLYUCHEPOVODNAYAδNEPOSTOYANNAYAwTIKHAYA PUTNAYAwDVOECHELNAYAζOKRYZHEVAYA
ηPOVODNAYAζAYA KLYUCHEVAYAζOPOVODNAYA KLYUCHEVAYAwGROMNAYA WITH SINGLE ZAPYATAYA
αOPOVODNAYA WITH SINGLE ZAPYATAYAαNAYAαOPOVODNAYAλ WITH DOUBLE ZAPYATAYAβKRYZHEVAYAμ POVODNAYA
pMECHIKv POVODNYwKLYUCHEVOYδPOVODNYδNEPOSTOYANNYpSTRELA TRYASOGLASNAYAγPOVODNAYAγSTRELNAYApOSOKA
u SVETLAYAvTRESVETLAYAvKRYUKOVAYA SVETLAYAwLYUCHEVAYA SVETLAYAθNEPOSTOYANNAYApSTRELA KRYUKOVAYA
η POVODNAYAθGROMNAYA WITH SINGLE ZAPYATAYAμOPOVODNAYA WITH SINGLE ZAPYATAYAμNAYAμOPOVODNAYA
φ WITH DOUBLE ZAPYATAYAνKRYZHEVAYAχ POVODNAYAθTRYASKApKUFISMApOBLAKOpDUDApNEMKApPAUK")]

end DocBraces.Text
