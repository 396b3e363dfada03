/-!
The names of the characters of Unicode 14 and their other names, packed, for looking a
character up by name. The names are sorted. Each entry of the names starts with a mark that
says how many characters it shares with the name before it (`Codec.sharedMarks`), followed by
the rest of the name. The code points are listed apart, in the same order, each as the
difference from the one before it (`Codec.codeDigits`). Names spelled by rule (unified
ideographs and Hangul syllables) are not listed.
-/
namespace Bookmarks.Codec

set_option maxRecDepth 4000 in
/-- The sorted names, each after the mark of what it shares with the one before. -/
def nameData : String :=
  String.join [
    "aABACUSbC CURRENTcCORDIONeUNT OFcKdNOWLEDGEcTIVATE ARABIC FORM SHAPINGjSYMMETRIC SWAPPINGcUTE ACCENThNGLEbDDRESSED TO THE SUBJECTcHESIVE BANDAGEcI SHAKTIcLAM ALIF LENGTHENERgCAPITAL LETTER ALIFvBAwHEvCHIvDAALIwHAvEvFAvGAwBEvHAvIvJIIMvKAFwHAwPOvLAAMvMIIMvNHAwUNwYAvOvPEvQAAFvRAvSHAwINNYIIYHEvTUvUvVAvWAWvYAwHEvZALhONSONANT MODIFIERgDIGIT EIGHTmFIVEnOURmNINEmONEmSEVENnIXmTHREEnWOmZEROgGEMINATE CONSONANT MODIFIERnION MARKgHAMZAgINITIAL EXCLAMATION MARKoQUESTION MARKgNASALIZATION MARKhUKTAgSMALL LETTER ALIFtBAuHEtCHItDAALIuHAtEtFAtGAuBEtHAtItJIIMtKAFuHAuPOtLAAMtMIIMtNHAuUNuYAtOtPEtQAAFtRAtSHAuINNYIIYHEtTUtUtVAtWAWtYAuHEtZALgVOWEL LENGTHENERcMETOSdISSION TICKETScULTbEGEAN CHECK MARKhDRY MEASURE FIRST SUBUNIThLIQUID MEASURE FIRST SUBUNIThMEASURE SECOND SUBUNITpTHIRD SUBUNIThNUMBER EIGHTt HUNDREDuTHOUSANDtYu THOUSANDoFIFTYt THOUSANDqVEs HUNDREDtTHOUSANDpORTYt THOUSANDqURs HUNDREDtTHOUSANDoNINEs HUNDREDtTHOUSANDsTYu THOUSANDoONEr HUNDREDsTHOUSANDoSEVENt HUNDREDuTHOUSANDtTYv THOUSANDpIXr HUNDREDs",
    "THOUSANDrTYt THOUSANDoTENr THOUSANDpHIRTYu THOUSANDqREEt HUNDREDuTHOUSANDpWENTYu THOUSANDqOr HUNDREDsTHOUSANDhWEIGHT BASE UNIToFIRST SUBUNITpOURTH SUBUNIToSECOND SUBUNIToTHIRD SUBUNITiORD SEPARATOR DOTwLINEcRIAL TRAMWAYbFGHANI SIGNbHOM CONSONANT SIGN MEDIAL LA$IGATING RA#RAfDIGIT EIGHTlFIVEmOURlNINElONElSEVENmIXlTHREEmWOlZEROfLETTER AnLTERNATE BAwGAwTAmBAnHAmCAnHAmDAnDAoHAnHAmGAnHAmHAmJAnHAmKAnHAmLAnLAmMAmNAnGAnNAnYAmPAnHAmRAmSAmTAnHAnTAoHAfNUMBER TENnWENTYfSIGN KILLERkRULAIkSECTIONlMALL SECTIONgYMBOL VIfVOWEL SIGN ArArIrMrWqEqIrIqOqUrUbIRPLANEi ARRIVINGjDEPARTUREbKTIESELSKABbLARM CLOCKcCHEMICAL SYMBOL FOR AIRxLEMBICyKALI$-2yUMxMALGAMxNTIMONY ORExQUA REGIA)-2#VITAE)-2!FORTISxRSENICxSHESxURIPIGMENTwBATH OF MARY&VAPOURSxISMUTH ORExLACK SULFURxORAX#-2$3xRICKwCADUCEUSyLXyPUT MORTUUMxINNABARxOPPER ANTIMONIATE%ORExROCUS OF COPPER;-2)IRONyUCIBLE&-2(3(4(5wDAY-NIGHTxISSOLVE&-2zTILLwEARTHwFIREwGOLDxUMwHALF DRAM#OUNCExORSE DUNGyURwIRON ORE&-2!-COPPER OREwLEAD ORExODESTONEwMARCASITExERCURY SUBLIMA",
    "TE<-2=3xONTHwNIGHTyTREwOILwPHILOSOPHERS SULFURxOT ASHESyWDER$ED BRICKxRECIPITATExURIFYyTREFACTIONwQUICK LIMEzNTESSENCEwREALGAR%-2yGULUS% OF ANTIMONY>-2*IRON%-2&3&4yTORTxOCK SALT(-2wSAL-AMMONIACzT! OF ANTIMONY&COPPER ANTIMONIATExCEPTER OF JOVExILVERxOAPxPIRITxTARRED TRIDENTyRATUM SUPER STRATUM@-2xUBLIMATE OF ANTIMONY,COPPER,SALT OF ANTIMONY@COPPER&IONyLFURwTARTAR$-2xIN OREzCTURExRIDENTxUTTYwURINEwVERDIGRISxINEGAR% OF ANTIMONY%-2&3yTRIOL%-2wWATERyXcEF SYMBOLdMBICdRTcIEN MONSTERcL AROUND-PROFILEeEQUAL TOcMdOST EQUAL OR EQUAL TOnTOp WITH CIRCUMFLEX ACCENTcTERNATE ONE-WAY LEFT WAY TRAFFICiIVE KEY SYMBOLbMALGAMATION OR COPRODUCTcBULANCEcERICAN FOOTBALLcPERSANDdHORAbNATOLIAN HIEROGLYPH A001y2y3y4y5y6y7y8y9x10zAy1y2y3y4y5y6y7y8y9x20y1y2y3y4y5y6zAy7y8y9x30y1y2y3y4y5y6y7y8y9zAx40y1zAy2y3y4y5zAy6zAzBy7y8y9x50y1y2y3y4y5y6y7y8y9x60y1y2y3y4y5y6zAzBzCy7y8y9x70y1y2y3y4y5y6y7y8y9x80y1y2y3y4y5y6y7y8y9x90y1y2y3y4y5y6y7zAy8zAy9w100zAy1zAy2zAy3y4zAzBzCy5zAzBy6y7zAzBzCy8y9x10zAzBy1y2y3y4y5zAy6y7y8y9x20y1y2y",
    "3y4y5zAy6y7y8y9x30y1y2y3y4y5zAy6y7y8y9x40y1y2y3y4y5y6y7y8y9x50y1y2y3y4y5y6y7y8y9x60y1y2y3y4y5y6y7y8y9x70y1y2y3y4y5y6y7y8y9x80y1y2y3y4y5y6y7y8y9x90y1y2y3y4y5y6y7y8y9w200y1y2zAzBy3y4y5y6y7zAy8y9zAx10y1y2y3y4y5zAy6zAy7y8y9x20y1y2y3y4y5y6y7zAy8y9x30y1y2y3y4y5y6y7y8y9x40y1y2y3y4y5y6y7y8y9x50y1y2y3y4y5y6y7y8y9x60y1y2y3y4y5y6y7zAy8y9x70y1y2y3y4y5y6y7y8y9x80y1y2y3y4y5y6y7y8y9zAx90y1y2y3y4zAy5y6y7y8y9zAw300y1y2y3y4y5y6y7y8y9zAx10y1y2y3y4y5y6y7y8y9x20y1y2y3y4y5y6y7y8y9zAx30y1y2AzBzCy3y4y5y6zAzBzCy7y8y9x40y1y2y3y4y5y6y7y8y9x50y1y2y3y4y5y6y7y8y9zAx60y1y2y3y4zAy5y6y7y8zAy9x70y1zAy2y3y4y5y6y7y8y9x80y1zAy2y3 RA OR RIzAy4y5y6zAy7y8y9x90y1y2y3 EIGHTy4y5y6y7y8y9w400y1y2y3y4y5y6y7y8y9x10 BEGIN LOGOGRAM MARKzA END LOGOGRAM MARKy1y2y3y4y5y6y7y8y9x20y1y2y3y4y5y6y7y8y9x30y1y2y3y4y5y6y7y8y9x40y1y2y3y4y5y6y7y8y9x50zAy1y2y3y4y5y6y7zAy8y9x60y1y2y3y4y5y6y7y8y9x70y1y2y3y4y5y6y7y8y9x80y1y2y3y4y5y6y7y8y9x90y1y2y3y4y5y6y7w501y2y3y4y5y6y7y8y9x10y1y2y3y4y5y6y7y8y9x20y1y2y3y4y5y6y7y8y9x30fMICAL HEARTcCHORcD WITH DOTcGER",
    " SYMBOLdLEf WITH S INSIDElUNDERBARdRY FACEdSTROM SIGNdUISHED FACEcKHcTdENNA WITH BARSdICLOCKWISE CLOSED CIRCLE ARROWpONTOUR INTEGRALoDOWNWARDS AND UPWARDS OPEN CIRCLE ARROWSoGAPPED CIRCLE ARROWoINTEGRATIONoOPEN CIRCLE ARROWoTOP SEMICIRCLE ARROWpRIANGLE-HEADED BOTTOM U-SHAPED ARROW&LEFT U-SHAPED ARROW&OPEN CIRCLE ARROW&RIGHT U-SHAPED ARROW&TOP U-SHAPED ARROWbPCcL FUNCTIONAL SYMBOL ALPHA# UNDERBARwBACKSLASH BARwCIRCLE BACKSLASH%DIAERESIS%JOT%STAR(ILE%UNDERBARxOMMA BARwDEL DIAERESIS!STILE!TILDEzTA STILE$UNDERBARxIAMOND UNDERBARxOWN CARET TILDE#SHOE STILE#TACK JOT)UNDERBAR!WARDS VANEwEPSILON UNDERBARwGREATER-THAN DIAERESISwI-BEAMxOTA! UNDERBARwJOT DIAERESIS!UNDERBARwLEFT SHOE STILE!WARDS VANEwOMEGA# UNDERBARwQUAD! BACKSLASH#CIRCLE$OLON#DEL&TA$IAMOND%VIDE$OWN CARET(WARDS ARROW#EQUAL#GREATER-THAN#JOT#LEFTWARDS ARROW%SS-THAN#NOT EQUAL#QUESTION#RIGHTWARDS ARROW#SLASH#UP CARET%WARDS ARROWyOTE QUAD$UNDERBARwRHOxIGHTWARDS VANEwSEMICOLON UNDERBARxLASH BARxQUISH QUADxTAR DIAERESISyILE TILDEwTILDE D",
    "IAERESISwUP CARET TILDEzSHOE JOTzTACK DIAERESIS&JOT&OVERBARyWARDS VANEwZILDEcOLLONdSTROPHEcPLICATION PROGRAM COMMANDdROACHES THE LIMITfXIMATELY BUT NOT ACTUALLY EQUAL TOoEQUAL OR EQUAL TOuTOw OR THE IMAGE OFbQUARIUSbRABIC BASELINE ROUND DOThCOMMAiURLY DAMMAsTANnFATHAsTANnKASRAsTANhDAMMAm ISOLATED FORMnMEDIAL FORMnWITH DOTmTANp ISOLATED FORMjTE SEPARATORiECIMAL SEPARATORiISPUTED END OF AYAHiOUBLE RIGHT ARROWHEAD ABOVE, WITH DOTnD MADDAhEMPTY CENTRE HIGH STOPuLOW STOPiND OF AYAHoTEXT MARKhFATHAm ISOLATED FORMnMEDIAL FORMnWITH DOT ABOVEsRINGsTWO DOTSmTANp ISOLATED FORMiIVE POINTED STARiOOTNOTE MARKERiULL STOPhHALF MADDA OVER MADDAjMZA ABOVEnBELOWhINVERTED DAMMAhKASRAm ISOLATED FORMnMEDIAL FORMnWITH DOT BELOWmTANp ISOLATED FORMhLARGE CIRCLE BELOWnROUND DOT ABOVExBELOWxINSIDE CIRCLE BELOWiEFT ARROWHEAD ABOVEwBELOWjTTER AEpFRICAN FEHwNOONwQAFz WITH THREE DOTS ABOVEpINr FINAL FORMsINITIAL FORMtSOLATED FORMsMEDIAL FORMsWITH THREE DOTS ABOVE+BELOW+POINTING DOWNWARDS ABOVEyWO DOTS ABOVE)VERTICAL",
    "LY ABOVEpLEFs FINAL FORMtISOLATED FORMtMAKSURA! FINAL FORM#ISOLATED FORMtWASLAy FINAL FORMzISOLATED FORMuITH ATTACHED BOTTOM RIGHT KASRA~RA AND DOT ABOVE~RA AND LEFT RING*FATHA*KASRA*LEFT HAMZA;ROUND DOT*RIGHT HAMZA<ROUND DOT+OUND DOT ABOVE@BELOW*TOP RIGHT FATHA| AND DOT ABOVE~AND LEFT RINGyDOT ABOVEyEXTENDED ARABIC-INDIC DIGIT THREE ABOVE~IT TWO ABOVEyHAMZA ABOVE, FINAL FORM.ISOLATED FORM&BELOW, FINAL FORM.ISOLATED FORMyLEFT MIDDLE STROKEyMADDA ABOVE, FINAL FORM.ISOLATED FORMyRIGHT MIDDLE STROKE@ AND DOT ABOVE|LEFT RINGyWAVY HAMZA ABOVE,BELOWoBEEHs FINAL FORMtINITIAL FORMuSOLATED FORMtMEDIAL FORMqHr FINAL FORMsINITIAL FORMtSOLATED FORMsMEDIAL FORMsWITH DOT BELOW AND THREE DOTS ABOVExHAMZA ABOVExINVERTED SMALL V BELOWxSMALL MEEM ABOVE%V& BELOWxTHREE DOTS HORIZONTALLY BELOW+POINTING UPWARDS BELOW~S BELOW AND TWO DOTS ABOVEyWO DOTS BELOW AND DOT ABOVErEHt FINAL FORMuINITIAL FORMvSOLATED FORMuMEDIAL FORMoDADr FINAL FORMsINITIAL FORMtSOLATED FORMsMEDIAL FORMsWITH DOT BELOWqHALt FINAL FORMu",
    "ISOLATED FORMqLr FINAL FORMsISOLATED FORMsWITH DOT BELOW) AND SMALL TAHxFOUR DOTS ABOVExINVERTED SMALL V BELOW)VxRINGxTHREE DOTS ABOVE DOWNWARDS+BELOWyWO DOTS VERTICALLY BELOW AND SMALL TAHpDAHALu FINAL FORMvISOLATED FORMrLs FINAL FORMtISOLATED FORMpOTLESS BEHwFEHwQAFpULr FINAL FORMsISOLATED FORMpYEHs FINAL FORMtINITIAL FORMuSOLATED FORMtMEDIAL FORMoEp FINAL FORMqINITIAL FORMrSOLATED FORMqMEDIAL FORMoFARSI YEHx FINAL FORMyINITIAL FORMzSOLATED FORMyMEDIAL FORMyWITH EXTENDED ARABIC-INDIC DIGIT FOUR BELOW~C DIGIT THREE ABOVE~C DIGIT TWO ABOVE%INVERTED V%THREE DOTS ABOVE&WO DOTS ABOVEpEHr FINAL FORMsINITIAL FORMtSOLATED FORMsMEDIAL FORMsWITH DOT BELOW) AND THREE DOTS ABOVE#MOVED BELOWxTHREE DOTS BELOW+POINTING UPWARDS BELOWyWO DOTS BELOWoGAFr FINAL FORMsINITIAL FORMtSOLATED FORMsMEDIAL FORMsWITH INVERTED STROKExRINGxTHREE DOTS ABOVEyWO DOTS BELOWpHAINt FINAL FORMuINITIAL FORMvSOLATED FORMuMEDIAL FORMuWITH DOT BELOWzTHREE DOTS ABOVEpRAFpUEHs FINAL FORMtINITIAL FORMuSOLATED FORMtMEDIAL FORMo",
    "HAHr FINAL FORMsINITIAL FORMtSOLATED FORMsMEDIAL FORMsWITH EXTENDED ARABIC-INDIC DIGIT FOUR BELOWxHAMZA ABOVExINVERTED SMALL V BELOWxSMALL ARABIC LETTER TAH ABOVE|ND TWO DOTS_BELOWxTHREE DOTS ABOVE+POINTING UPWARDS BELOWyWO DOTS ABOVE)VERTICAL ABOVEqMZAt ISOLATED FORMpEHr DOACHASHMEE% FINAL FORM&INITIAL FORM(SOLATED FORM&MEDIAL FORMsFINAL FORMsGOALw FINAL FORMxINITIAL FORMySOLATED FORMxMEDIAL FORMxWITH HAMZA ABOVEsINITIAL FORMtSOLATED FORMsMEDIAL FORMsWITH INVERTED VxYEH ABOVE) FINAL FORM*ISOLATED FORMpIGH HAMZAy ALEFzWAWzYEHoJEEMs FINAL FORMtINITIAL FORMuSOLATED FORMtMEDIAL FORMtWITH THREE DOTS ABOVE,BELOWzWO DOTS ABOVEqHr FINAL FORMsISOLATED FORMoKAFr FINAL FORMsINITIAL FORMtSOLATED FORMsMEDIAL FORMsWITH DOT ABOVE#BELOWxRINGxTHREE DOTS BELOWyWO DOTS ABOVEqSHMIRI YEHpEHEHt FINAL FORMuINITIAL FORMvSOLATED FORMuMEDIAL FORMuWITH DOT ABOVEzSMALL VzTHREE DOTS ABOVE.BELOW.POINTING UPWARDS BELOW!WO DOTS ABOVE+VERTICALLY BELOWpHAHs FINAL FORMtINITIAL FORMuSOLATED FORMtMEDIAL FORMpIRGHIZ OEy F",
    "INAL FORMzISOLATED FORMwYUy FINAL FORMzISOLATED FORMoLAMr FINAL FORMsINITIAL FORMtSOLATED FORMsMEDIAL FORMsWITH BARxDOT ABOVEzUBLE BARxSMALL ARABIC LETTER TAH ABOVE%VxTHREE DOTS ABOVE+BELOWpOW ALEFoMARKpEEMs FINAL FORMtINITIAL FORMuSOLATED FORMtMEDIAL FORMtWITH DOT ABOVE$BELOWyTHREE DOTS ABOVEoNGq FINAL FORMrINITIAL FORMsSOLATED FORMrMEDIAL FORMqOEHt FINAL FORMuINITIAL FORMvSOLATED FORMuMEDIAL FORMpOONs FINAL FORMtGHUNNAz FINAL FORM!ISOLATED FORMtINITIAL FORMuSOLATED FORMtMEDIAL FORMtWITH DOT BELOWyINVERTED SMALL VyRINGySMALL TAH&VyTHREE DOTS ABOVEzWO DOTS BELOWpYEHs FINAL FORMtINITIAL FORMuSOLATED FORMtMEDIAL FORMoOEq FINAL FORMrISOLATED FORMoPEHr FINAL FORMsINITIAL FORMtSOLATED FORMsMEDIAL FORMsWITH SMALL MEEM ABOVE%VrEHt FINAL FORMuINITIAL FORMvSOLATED FORMuMEDIAL FORMoQAFr FINAL FORMsINITIAL FORMtSOLATED FORMsMEDIAL FORMsWITH DOT ABOVE#BELOW) AND NO DOTS ABOVExTHREE DOTS ABOVEoREHr FINAL FORMsISOLATED FORMsWITH DOT BELOW) AND DOT ABOVExFOUR DOTS ABOVExHAMZA ABOVExINVERTED VxLOOPxRI",
    "NGxSMALL ARABIC LETTER TAH AND TWO DOTS%NOON ABOVE%V& BELOWyTROKExTWO DOTS ABOVE)VERTICALLY ABOVEpNOONt FINAL FORMuINITIAL FORMvSOLATED FORMuMEDIAL FORMpOHINGYA YEHpREHs FINAL FORMtISOLATED FORMoSADr FINAL FORMsINITIAL FORMtSOLATED FORMsMEDIAL FORMsWITH THREE DOTS ABOVE+BELOWyWO DOTS BELOWpEENs FINAL FORMtINITIAL FORMuSOLATED FORMtMEDIAL FORMtWITH DOT BELOW AND DOT ABOVEyEXTENDED ARABIC-INDIC DIGIT FOUR ABOVEyFOUR DOTS ABOVEyINVERTED VySMALL ARABIC LETTER TAH AND TWO DOTSyTHREE DOTS BELOW= AND THREE DOTS ABOVEzWO DOTS VERTICALLY ABOVEpHEENt FINAL FORMuINITIAL FORMvSOLATED FORMuMEDIAL FORMuWITH DOT BELOWpTRAIGHT WAWpUPERSCRIPT ALEFpWASH KAFoTAHr FINAL FORMsINITIAL FORMtSOLATED FORMsMEDIAL FORMsWITH DOT BELOWxTHREE DOTS ABOVE+BELOWyWO DOTS ABOVEpCHEHt FINAL FORMuINITIAL FORMvSOLATED FORMuMEDIAL FORMuWITH DOT ABOVEzSMALL VtEHv FINAL FORMwINITIAL FORMxSOLATED FORMwMEDIAL FORMpEHr FINAL FORMsINITIAL FORMtSOLATED FORMsMARBUTAz FINAL FORM!GOAL!ISOLATED FORMtEDIAL FORMsWITH RINGxSMALL TEH ABOV",
    "E%VxTHREE DOTS ABOVE DOWNWARDSrEHt FINAL FORMuINITIAL FORMvSOLATED FORMuMEDIAL FORMpHALs FINAL FORMtISOLATED FORMqEHs FINAL FORMtINITIAL FORMuSOLATED FORMtMEDIAL FORMqIN YEHpTEHs FINAL FORMtINITIAL FORMuSOLATED FORMtMEDIAL FORMtWITH SMALL VsEHu FINAL FORMvINITIAL FORMwSOLATED FORMvMEDIAL FORMoUp FINAL FORMqISOLATED FORMqWITH HAMZA ABOVE) ISOLATED FORMpIGHUR KAZAKH KIRGHIZ ALEF MAKSURA INITIAL FORM~MEDIAL FORMoVEq FINAL FORMrISOLATED FORMqHr FINAL FORMsINITIAL FORMtSOLATED FORMsMEDIAL FORMoWAWr FINAL FORMsISOLATED FORMsWITH DOT ABOVE#WITHINxEXTENDED ARABIC-INDIC DIGIT THREE ABOVE~T TWO ABOVExHAMZA ABOVE+ FINAL FORM,ISOLATED FORMxRINGxTWO DOTS ABOVEoYEHr BARREEy FINAL FORMzISOLATED FORMzWITH EXTENDED ARABIC-INDIC DIGIT THREE ABOVE~IC DIGIT TWO ABOVE&HAMZA ABOVE> FINAL FORM?ISOLATED FORMsFINAL FORMsINITIAL FORMtSOLATED FORMsMEDIAL FORMsWITH HAMZA ABOVE+ FINAL FORM,INITIAL FORM.SOLATED FORM,MEDIAL FORMxSMALL VxTAILyHREE DOTS BELOWyWO DOTS BELOW AND DOT ABOVE?HAMZA ABOVE?SMALL NOON ABOVEpUq",
    " FINAL FORMrISOLATED FORMoZAHr FINAL FORMsINITIAL FORMtSOLATED FORMsMEDIAL FORMqINs FINAL FORMtISOLATED FORMtWITH INVERTED V ABOVEiIGATURE AIN WITH ALEF MAKSURA FINAL FORM;ISOLATED FORMzJEEM INITIAL FORM(SOLATED FORM&WITH MEEM FINAL FORM=INITIAL FORMzMEEM INITIAL FORM(SOLATED FORM&WITH ALEF MAKSURA FINAL FORM,MEEM FINAL FORM=INITIAL FORM,YEH FINAL FORMzYEH FINAL FORM%ISOLATED FORMrKBAR ISOLATED FORMrLAYHAA AS-SALAAMvE ISOLATED FORMvI AS-SALAAM(TU WAS-SALAAMwM AS-SALAAMxAA AS-SALAAMsEF MAKSURA WITH SUPERSCRIPT ALEF FINAL FORM~F ISOLATED FORMvWITH FATHATAN FINAL FORM,ISOLATED FORMsLAH ISOLATED FORMrZZA WA JALLqBEH WITH ALEF MAKSURA FINAL FORM;ISOLATED FORMzHAH INITIAL FORM&SOLATED FORM%WITH YEH FINAL FORM!EH INITIAL FORM%MEDIAL FORMzJEEM INITIAL FORM(SOLATED FORMzKHAH INITIAL FORM(SOLATED FORM&WITH YEH FINAL FORMzMEEM FINAL FORM&INITIAL FORM(SOLATED FORM&MEDIAL FORMzNOON FINAL FORMzREH FINAL FORMzYEH FINAL FORM%ISOLATED FORMzZAIN FINAL FORMrISMILLAH AR-RAHMAN AR-RAHEEMqDAD WITH ALEF MAKS",
    "URA FINAL FORM;ISOLATED FORMzHAH INITIAL FORM&SOLATED FORM%WITH ALEF MAKSURA FINAL FORM+YEH FINAL FORMzJEEM INITIAL FORM(SOLATED FORMzKHAH INITIAL FORM(SOLATED FORM&WITH MEEM FINAL FORM=INITIAL FORMzMEEM INITIAL FORM(SOLATED FORMzREH FINAL FORM%ISOLATED FORMzYEH FINAL FORM%ISOLATED FORMqFEH WITH ALEF MAKSURA FINAL FORM;ISOLATED FORMzHAH INITIAL FORM&SOLATED FORMzJEEM INITIAL FORM(SOLATED FORMzKHAH INITIAL FORM(SOLATED FORM&WITH MEEM FINAL FORM=INITIAL FORMzMEEM INITIAL FORM(SOLATED FORM&WITH YEH FINAL FORMzYEH FINAL FORM%ISOLATED FORMqGHAIN WITH ALEF MAKSURA FINAL FORM=ISOLATED FORM#JEEM INITIAL FORM*SOLATED FORM#MEEM INITIAL FORM*SOLATED FORM)WITH ALEF MAKSURA FINAL FORM:MEEM FINAL FORM:YEH FINAL FORM#YEH FINAL FORM(ISOLATED FORMqHAH WITH ALEF MAKSURA FINAL FORM;ISOLATED FORMzJEEM INITIAL FORM(SOLATED FORM&WITH YEH FINAL FORMzMEEM INITIAL FORM(SOLATED FORM&WITH ALEF MAKSURA FINAL FORM,YEH FINAL FORMzYEH FINAL FORM%ISOLATED FORMrEH WITH ALEF MAKSURA ISOLATED FORMzJEEM INITIAL FORM(SOLA",
    "TED FORMzMEEM INITIAL FORM(SOLATED FORM&WITH JEEM INITIAL FORM,MEEM INITIAL FORMzSUPERSCRIPT ALEF INITIAL FORMzYEH ISOLATED FORMqJALLAJALALOUHOUrEEM WITH ALEF MAKSURA FINAL FORM<ISOLATED FORM!HAH INITIAL FORM(SOLATED FORM&WITH ALEF MAKSURA FINAL FORM,YEH FINAL FORM!MEEM INITIAL FORM)SOLATED FORM(WITH ALEF MAKSURA FINAL FORM.HAH FINAL FORM=INITIAL FORM.YEH FINAL FORM!YEH FINAL FORM&ISOLATED FORMqKAF WITH ALEF FINAL FORM&ISOLATED FORM&MAKSURA FINAL FORM;ISOLATED FORMzHAH INITIAL FORM&SOLATED FORMzJEEM INITIAL FORM(SOLATED FORMzKHAH INITIAL FORM(SOLATED FORMzLAM FINAL FORM%INITIAL FORM&SOLATED FORM%MEDIAL FORMzMEEM FINAL FORM&INITIAL FORM(SOLATED FORM&MEDIAL FORM&WITH MEEM FINAL FORM=INITIAL FORM,YEH FINAL FORMzYEH FINAL FORM%ISOLATED FORMrHAH WITH ALEF MAKSURA FINAL FORM<ISOLATED FORM!HAH ISOLATED FORM!JEEM INITIAL FORM)SOLATED FORM!MEEM INITIAL FORM)SOLATED FORM!YEH FINAL FORM&ISOLATED FORMqLAM WITH ALEF FINAL FORM&ISOLATED FORM&MAKSURA FINAL FORM;ISOLATED FORM&WITH HAMZA ABOVE FINAL FO",
    "RM_ISOLATED FORM>BELOW FINAL FORM_ISOLATED FORM,MADDA ABOVE FINAL FORM_ISOLATED FORMzHAH INITIAL FORM&SOLATED FORM%WITH ALEF MAKSURA FINAL FORM+MEEM FINAL FORM<INITIAL FORM+YEH FINAL FORM!EH INITIAL FORMzJEEM INITIAL FORM(SOLATED FORM&WITH JEEM FINAL FORM=INITIAL FORM,MEEM FINAL FORM=INITIAL FORM,YEH FINAL FORMzKHAH INITIAL FORM(SOLATED FORM&WITH MEEM FINAL FORM=INITIAL FORMzMEEM FINAL FORM&INITIAL FORM(SOLATED FORM&MEDIAL FORM&WITH HAH FINAL FORM<INITIAL FORM,YEH FINAL FORMzYEH FINAL FORM%ISOLATED FORMqMEEM WITH ALEF FINAL FORM(MAKSURA ISOLATED FORM!HAH INITIAL FORM(SOLATED FORM&WITH JEEM INITIAL FORM,MEEM INITIAL FORM,YEH FINAL FORM!JEEM INITIAL FORM)SOLATED FORM(WITH HAH INITIAL FORM.KHAH INITIAL FORM.MEEM INITIAL FORM.YEH FINAL FORM!KHAH INITIAL FORM)SOLATED FORM(WITH JEEM INITIAL FORM.MEEM INITIAL FORM.YEH FINAL FORM!MEEM FINAL FORM(INITIAL FORM)SOLATED FORM(WITH YEH FINAL FORM!YEH ISOLATED FORMrOHAMMAD ISOLATED FORMqNOON WITH ALEF MAKSURA FINAL FORM<ISOLATED FORM!HAH INITIAL FORM",
    "(SOLATED FORM&WITH ALEF MAKSURA FINAL FORM,MEEM INITIAL FORM,YEH FINAL FORM#EH INITIAL FORM&MEDIAL FORM!JEEM INITIAL FORM)SOLATED FORM(WITH ALEF MAKSURA FINAL FORM.HAH FINAL FORM=INITIAL FORM.MEEM FINAL FORM>INITIAL FORM.YEH FINAL FORM!KHAH INITIAL FORM)SOLATED FORM!MEEM FINAL FORM(INITIAL FORM)SOLATED FORM(MEDIAL FORM(WITH ALEF MAKSURA FINAL FORM.YEH FINAL FORM!NOON FINAL FORM!REH FINAL FORM!YEH FINAL FORM&ISOLATED FORM!ZAIN FINAL FORMqQAF WITH ALEF MAKSURA FINAL FORM;ISOLATED FORMzHAH INITIAL FORM&SOLATED FORMzMEEM INITIAL FORM(SOLATED FORM&WITH HAH FINAL FORM<INITIAL FORM,MEEM FINAL FORM,YEH FINAL FORMzYEH FINAL FORM%ISOLATED FORMsLA USED AS KORANIC STOP SIGN ISOLATED FORMrUDDISA SIRRAHqRADI ALLAAHU ANH)AA)UM+AA*NNAsHIMAHU ALLAAHyM ALLAAHsSOUL ISOLATED FORMrEH WITH SUPERSCRIPT ALEF ISOLATED FORMqSAD WITH ALEF MAKSURA FINAL FORM;ISOLATED FORMzHAH INITIAL FORM&SOLATED FORM%WITH HAH FINAL FORM;INITIAL FORM+YEH FINAL FORMzKHAH INITIAL FORMzMEEM INITIAL FORM(SOLATED FORM&WITH MEEM FINAL ",
    "FORM=INITIAL FORMzREH FINAL FORM%ISOLATED FORMzYEH FINAL FORM%ISOLATED FORMsLAAMUHU ALAYNAAuM ISOLATED FORMtLA ISOLATED FORMwUSED AS KORANIC STOP SIGN ISOLATED FORMvLLAAHU ALAYHI WA-AALIHyHOU ALAYHE WASALLAMzU ALAYHI WAAALIHEE WA-SALLAMrEEN WITH ALEF MAKSURA FINAL FORM<ISOLATED FORM!HAH INITIAL FORM(SOLATED FORM&MEDIAL FORM&WITH JEEM INITIAL FORM#EH INITIAL FORM&MEDIAL FORM!JEEM INITIAL FORM)SOLATED FORM(MEDIAL FORM(WITH ALEF MAKSURA FINAL FORM.HAH INITIAL FORM!KHAH INITIAL FORM)SOLATED FORM(MEDIAL FORM(WITH ALEF MAKSURA FINAL FORM.YEH FINAL FORM!MEEM INITIAL FORM)SOLATED FORM(MEDIAL FORM(WITH HAH FINAL FORM=INITIAL FORM.JEEM INITIAL FORM.MEEM FINAL FORM>INITIAL FORM!REH FINAL FORM&ISOLATED FORM!YEH FINAL FORM&ISOLATED FORMrHADDA WITH DAMMA ISOLATED FORM+MEDIAL FORM*TAN ISOLATED FORM$FATHA ISOLATED FORM+MEDIAL FORM$KASRA ISOLATED FORM+MEDIAL FORM*TAN ISOLATED FORM$SUPERSCRIPT ALEF ISOLATED FORMsEEN WITH ALEF MAKSURA FINAL FORM=ISOLATED FORM#HAH FINAL FORM(INITIAL FORM)SOLATED FORM(MEDI",
    "AL FORM(WITH MEEM FINAL FORM>INITIAL FORM.YEH FINAL FORM$EH INITIAL FORM(MEDIAL FORM#JEEM FINAL FORM)INITIAL FORM*SOLATED FORM)MEDIAL FORM)WITH YEH FINAL FORM#KHAH FINAL FORM)INITIAL FORM*SOLATED FORM)MEDIAL FORM#MEEM FINAL FORM)INITIAL FORM*SOLATED FORM)MEDIAL FORM)WITH KHAH FINAL FORM?INITIAL FORM:MEEM FINAL FORM?INITIAL FORM#REH FINAL FORM(ISOLATED FORM#YEH FINAL FORM(ISOLATED FORMrUBHAANAHU WA TAAALAAqTABAARAKA WA-TAAALAAsH WITH ALEF MAKSURA FINAL FORM;ISOLATED FORMzHAH INITIAL FORM&SOLATED FORMzMEEM INITIAL FORM(SOLATED FORM&MEDIAL FORM&WITH HAH FINAL FORM<INITIAL FORM,MEEM INITIAL FORM,YEH FINAL FORMzYEH FINAL FORM%ISOLATED FORMrEH WITH ALEF MAKSURA FINAL FORM;ISOLATED FORMzHAH INITIAL FORM&SOLATED FORM%WITH JEEM FINAL FORM<INITIAL FORM+MEEM INITIAL FORM!EH INITIAL FORM%MEDIAL FORMzJEEM INITIAL FORM(SOLATED FORM&WITH ALEF MAKSURA FINAL FORM,MEEM INITIAL FORM,YEH FINAL FORMzKHAH INITIAL FORM(SOLATED FORM&WITH ALEF MAKSURA FINAL FORM,MEEM INITIAL FORM,YEH FINAL FORMzMEEM FINAL FORM",
    "&INITIAL FORM(SOLATED FORM&MEDIAL FORM&WITH ALEF MAKSURA FINAL FORM,HAH INITIAL FORM,JEEM INITIAL FORM,KHAH INITIAL FORM,YEH FINAL FORMzNOON FINAL FORMzREH FINAL FORMzYEH FINAL FORM%ISOLATED FORMzZAIN FINAL FORMrHAL WITH SUPERSCRIPT ALEF ISOLATED FORMsEH WITH ALEF MAKSURA FINAL FORM<ISOLATED FORM!HEH MEDIAL FORM!JEEM ISOLATED FORM!MEEM FINAL FORM(INITIAL FORM)SOLATED FORM(MEDIAL FORM!NOON FINAL FORM!REH FINAL FORM!YEH FINAL FORM&ISOLATED FORM!ZAIN FINAL FORMqUIGHUR KIRGHIZ YEH WITH HAMZA ABOVE WITH ALEF MAKSURA FINAL FORM~VE WITH ALEF MAKSURA INITIAL FORM~VE WITH ALEF MAKSURA ISOLATED FORMqWASALLAM ISOLATED FORMqYEH WITH ALEF MAKSURA FINAL FORM;ISOLATED FORMzHAH INITIAL FORM&SOLATED FORM%WITH YEH FINAL FORM#MZA ABOVE WITH AE FINAL FORM]ISOLATED FORM@LEF FINAL FORM_ISOLATED FORM_MAKSURA FINAL FORM~KSURA ISOLATED FORM?E FINAL FORM[INITIAL FORM]SOLATED FORM?HAH INITIAL FORM_SOLATED FORM@EH INITIAL FORM^MEDIAL FORM?JEEM INITIAL FORM|SOLATED FORM?KHAH INITIAL FORM?MEEM FINAL FORM_INITIAL FO",
    "RM|SOLATED FORM_MEDIAL FORM?NOON FINAL FORM?OE FINAL FORM]ISOLATED FORM?REH FINAL FORM?U FINAL FORM[ISOLATED FORM?WAW FINAL FORM^ISOLATED FORM?YEH FINAL FORM^ISOLATED FORM@U FINAL FORM]ISOLATED FORM?ZAIN FINAL FORM!EH INITIAL FORM%MEDIAL FORMzJEEM INITIAL FORM(SOLATED FORM&WITH YEH FINAL FORMzKHAH INITIAL FORM(SOLATED FORMzMEEM FINAL FORM&INITIAL FORM(SOLATED FORM&MEDIAL FORM&WITH MEEM FINAL FORM=INITIAL FORM,YEH FINAL FORMzNOON FINAL FORMzREH FINAL FORMzYEH FINAL FORM%ISOLATED FORMzZAIN FINAL FORMqZAH WITH MEEM INITIAL FORM(SOLATED FORM&MEDIAL FORMhMADDA WAAJIBmH ABOVEjRK NOON GHUNNAmSIDEWAYS NOON GHUNNAjTHEMATICAL AINvLEFuBEHuDADwLvOTLESS BEH$FEH$NOON$QAFwUBLE-STRUCK AIN+BEH+DAD.L+FEH+GHAIN+HAH+JEEM+KHAH+LAM+MEEM+NOON+QAF+REH+SAD,EEN,HEEN+TAH,EH,HAL.EH+WAW+YEH+ZAH.INuFEHuGHAINuHAHuINITIAL AIN$BEH$DAD$FEH$GHAIN$HAH%EH$JEEM$KAF%HAH$LAM$MEEM$NOON$QAF$SAD%EEN%HEEN$TEH%HEH$YEHuJEEMuKAFvHAHuLAMvOOPED AIN$LEF#BEH#DAD%L#FEH#GHAIN#HAH$EH#JEEM#KHAH#LAM#MEEM#NOON#QAF#REH#SAD$EEN$HEEN#TAH$EH$HAL",
    "%EH#WAW#YEH#ZAH%INuMEEMuNOONuOPERATOR HAH WITH DAL%MEEM WITH HAH WITH TATWEELuQAFuREHuSADvEENvHEENvTRETCHED AIN&BEH&DAD(OTLESS BEH;FEH&FEH&GHAIN&HAH(EH&JEEM&KAF(HAH&MEEM&NOON&QAF&SAD(EEN(HEEN&TAH(EH(HEH&YEH&ZAHuTAHwILED AIN#DAD$OTLESS NOON,QAF#GHAIN#HAH#JEEM#KHAH#LAM#NOON#QAF#SAD$EEN$HEEN#YEHvEHvHALwEHuWAWuYEHuZAHwINhNUMBER MARK ABOVEoSIGNhOPEN DAMMATANmFATHATANmKASRATANhPERCENT SIGNiIASTRE MARK ABOVEiLACE OF SAJDAHiOETIC VERSE SIGNjUND MARK ABOVEhQUESTION MARKhRAISED ROUND DOTjYiEVERSED DAMMAiIGHT ARROWHEAD ABOVE$ WITH DOTxBELOWiOUNDED HIGH STOP WITH FILLED CENTREhSEMICOLONiHADDAn ISOLATED FORMoMEDIAL FORMiIGN ALAYHE ASSALLAMmMISRAmRADI ALLAHOU ANHUoHMATULLAH ALAYHEmSAFHAoLLALLAHOU ALAYHE WASSALLAMoMVAToNAHnINDHI AMPERSANDtPOSTPOSITION MENmTAKHALLUSiMALL DAMMAnFARSI YEHpTHAnHIGH AINsDOTLESS HEAD OF KHAHsFARSI YEHtOOTNOTE MARKERsJEEMsLAM ALEFtIGATURE ALEF WITH LAM WITH YEH#QAF WITH LAM WITH ALEF MAKSURA#SAD WITH LAM WITH ALEF MAKSURAsMADDAtEEM INITIAL FORMySOLATED FORMsNOONw WITH KASRA",
    "sQAFsROUNDED ZEROsSADtEENtIGN SAFHAsTAHtHREE DOTSsUPRIGHT RECTANGULAR ZEROsWAWtORD AL-JUZyN-NISFyR-RUByS-SAJDAyTH-THALATHAxQIFxSAHzKTAxWAQFAsYEHv BARREE WITH TWO DOTS BELOWsZAHuINnKASRAnLOW MEEMrNOON WITH KASRArSEENrWAWsORD IMAALAxSHMAAMwTASHEELnWAWnYEHiTART OF RUB EL HIZBiUBSCRIPT ALEFjKUNm BELOWnISOLATED FORMnMEDIAL FORMjPERSCRIPT ALEF MOKHASSASiYMBOL DOT ABOVEsBELOWqUBLE VERTICAL BAR BELOWoFOUR DOTS ABOVEyBELOWoRINGoSMALL TAH ABOVEyBELOWoTHREE DOTS ABOVEzBELOWzPOINTING DOWNWARDS ABOVE[BELOWpWO DOTS ABOVExBELOWxVERTICALLY ABOVE+BELOWoWASLA ABOVEhTAIL FRAGMENTjTWEELo WITH FATHATAN ABOVEuOVERSTRUCK HAMZA(WAWuTWO DOTS BELOWiHOUSANDS SEPARATORiONE LOOP ABOVErBELOWmONE DOT ABOVEuBELOWmTWO DOTS ABOVEvBELOWiRIPLE DOT PUNCTUATION MARKiURNED DAMMA BELOWhVERTICAL TAILiOWEL SIGN DOT BELOWsINVERTED SMALL V ABOVEsSMALL V ABOVEhWAVY HAMZA BELOWhZWARAKAYg-INDIC CUBE ROOTnDIGIT EIGHTtFIVEuOURtNINEtONEtSEVENuIXtTHREEuWOtZEROnFOURTH ROOTnPER MILLE SIGNrTEN THOUSAND SIGNcCcIEScMENIAN ABBREVIATION MARKk",
    "POSTROPHEjCAPITAL LETTER AYByBENyCAzHA!EHzOyDAyECHzHzTyFEHyGHADzIMyHOyINIyJAzHEHyKEH!NyLIWNyMENyNOWyOHyPEHzIWRyRAzEHySEHzHAyTIWNzOyVEWzOyXEHyYI!WNyZAzHEkOMMAjDRAM SIGNjEMPHASIS MARKkXCLAMATION MARKjFULL STOPjHYPHENjMODIFIER LETTER LEFT HALF RINGjQUESTION MARKjSMALL LETTER AYBwBENwCAxHAyEHxOwDAwECHxHxTwFEHwGHADxIMwHOwINIwJAxHEHwKEHyNwLIWNwMENwNOWwOHwPEHxIWRwRAxEHwSEHxHAwTIWNxOxURNED AYBwVEWxOwXEHwYIy WITH STROKEyWNwZAxHEqIGATURE ECH YIWNyMEN ECH$INI$NOW$XEHyVEW NOWcROW POINTING DOWNWARDS THEN CURVING LEFTWARDS;RIGHTWARDSpRIGHTWARDS THEN CURVING DOWNWARDS<SOUTH WEST<UPWARDSpUPWARDS THEN NORTH WESTfHEAD-SHAPED POINTERcTICULATED LORRYeST PALETTEbSCENDING NODEdIA SYMBOLcSERTIONcTERISKi OPERATORhMdONISHED FACEdRAEAeONOMICAL SYMBOL FOR URANUScYMPTOTICALLY EQUAL TObTHLETIC SHOEcOM SYMBOLbUBERGINEcSTRAL SIGNcTO RICKSHAWeMATED TELLER MACHINEfOBILEbVESTAN ABBREVIATION MARKiLETTER AqArNrOqErEqNqOpBEqHEpCEpDEqHEpEqEpFEpGEqGEqHEpHEqMEpIqIpJEpKEpLEpMEpNEqGErVErYEqNEqYEpOqOpPEpREpSEqHErYEqSHEpTEqHEqTE",
    "pUqUpVEpXEqVEqYEpYEqYEpZEqHEcOCADObXEaBABYe ANGELfBOTTLEfCHICKfSYMBOLcCK OF ENVELOPEfWITH LEFTWARDS ARROW ABOVEe-TILTED SHADOWED WHITE RIGHTWARDS ARROWeSLANTED SOUTH ARROW WITH HOOKED TAIL(RIZONTAL TAILfPACEdONdTRIAN CAMELcDGERdMINTON RACQUET AND SHUTTLECOCKcGELdGAGE CLAIMdUETTE BREADcLINESE ADEG ADEGjCARIK PAMUNGKAHrRERENpSIKIjDIGIT EIGHTpFIVEqOURpNINEpONEpSEVENqIXpTHREEqWOpZEROjLETTER AIKARArKARAv TEDUNGrRCHAIC JNYArSYURA SASAKqBAs KEMBANGqCAs LACAqDAs MADUuURDA ALPAPRANAzMAHAPRANAqEF SASAKrKARAqGAs GORAqHAqIKARAv TEDUNGqJAs JERAqKAs MAHAPRANAsF SASAKrHOT SASAKqLAs LENGAy TEDUNGqMAqNAs RAMBATrGArYAqOKARAv TEDUNGqPAs KAPALqRAs REPAx TEDUNGqSAs SAGAvPAqTAs LATIKtMURDA MAHAPRANAtTAWArZIR SASAKqUKARAv TEDUNGqVE SASAKqWAqYAqZAL SASAKjMUSICAL SYMBOL COMBINING BENDE+ENDEP+GONG+JEGOGAN+KEMPLI= WITH JEGOGAN;UL= WITH JEGOGAN+TEGEHyDAENG!ING!NG$ GEDE%SURANGzENG!UNGzINGzONGzUNGyLEFT-HAND CLOSED PLAK@UK+OPEN PANG=ING=UNGyRIGHT-HAND CLOSED TAK@UK,OPEN DAG>UGjPAMADAp LANTANGmENENGlNTIo LANTANGjSIGN",
    " BISAHoCECEKoREREKANoSURANGoULU CANDRAsRICEMjVOWEL SIGN LA LENGA$ TEDUNGuPEPETz TEDUNGuRA REPA# TEDUNGuSUKUy ILUTuTALING! REPA( TEDUNG#TEDUNGvEDUNGuULUx SARIjWINDUdL OF YARNeET SHOESeOONh-SPOKED ASTERISKfT BOLD SCRIPT XjXk WITH BALLOTrOLD CHECKvSCRIPT XqCHECKqLIGHT XqSCRIPT XqXhSCRIPT XhXcMUM COLONiMBINING MARK KOQNDONvTUKWENTISjMAgFULL STOPgLETTER AnEEnFAAMAEoEEoOMoUnInKAoENpTpUXoIoOpGHOMpVUUoPAoUoYEEnLAoEEEEoIoOQoUnMoAoBAApENoEEEEpNoIoOoUnNAoDAAoGApGApKWAENoIoJAEMpEEpUAEoSHAoTEEpUUoUpAEoYInOnPAoEEpUXoHASE-A FIRIvGBIEE FONwHEUAEGHEUAE#RAEvKAFAxQwETxUKEUTNDAwPOQwUOQvLAPAQwET KUTwOMMAEwUxAEPvMAEKEUPyMzBGBIEEzKPENzVEUXyNYIySIxNSUAExP PIEETwBANYIyQwEUNJOMNDEUQwGBASAwON NGGEUAETxOMEUTzPUQwVEUAENGAMvNAA MFONxQwDA LEERAEWAyANGGEUAETwENwGANGUxGENxKUE MFON!NZEUMwIKAwJAMwKAARAExINDIwSHAyIEEwTAPz MFAA!NTAAxOQPENwYETxIyT MONGKEUAEQwZA MFONxUN MEUTvPA LEERAEWAxAMyRAExMSHAExSHAEwETwON MFON PIPAEMBA.GBIEEzPA NJI PIPAEMBA;GBIEEwUPvROMvSEUNYAMwHINDA PA NJIyRAExOQ NSHUT YUMxUENSHUETyMwISAwONJAMxQxTwUUv",
    "TEUAENyTEUWENwITA MFONwU MAEMBAxAEPvU YUQ NAEwNKNOWNvVEEtB FEExUXvGHEUGHEN$UAEMvKAMwEUAEMyPUQyYEUXwIEEMxQvLAANAExM NSHUT NYAMwETwOM NTEUMvMAx NJEUAENA!UQAwBA MAELEEyARAExEURIxIT MBAAKETxUOQwEUQyT NGGEETwFIYAQxON TEUAEQwONTIEENvNDU NJAAwGGAAMyEU MBUyUOQ# LARGExKINDI MVOPxOMwSENxHUETwTIEE SHEUOQwYAEMAExI NTEUMvPARUMwEESHIwITwUNGAAMvSAKEUAEwET TUwHET NJAQyUAEQTUwIEEwUEvTAAMwU MAEMGBIEEyNSIEEvVEUMvWUAETvYAFU LEERAEWAwEURAEtC BUNGvFUEvGBAYIwHAPyRAEvKAAwEN FATIGUEzLAWxTxUKAQyMySEUXzHEUAEPwPARAQwUOP NKAARAExTvLAMxPwIQwUvMA KEUAERIyNSIEExEMBAySIwBAA CABBAGE-TREE!PICKETyNYIxEEKEETyRAEyUMzXxIyRIEENyTxUAEMyEwGBASAQwIEEwUAEvNANSANAQxQwDAMyPxEUAEREEzTxIDAxOMBUwGAQxGENyUzAEN NYAMzEETzMzONxKAQyUE MAEMBAxOMwJAEMyMxEEEEyUXxUEQwSAxEUAENxHAQxOMxUNyOT NGOMwTAAxENyUNGBAxU MBITwYIR MKPARAQ MEUNwZAxEUMvPENwINxRIEENvRUvSETFONxUXwHIQxUEQwUAETvTAASHAEwETxUTEUXwITA YUEyUAEPvVEUAEPENyXvWANGKUOQwUPvYAAwEUQwU MUOMAExMxWOQtD FAAwEUFEUAETvGHAAxEUAEvKETxUAETMEUNyMyOT MBUAEyPwUxNxOMxQwWAETwYEEvLEEEExTxUAEPyMwIEEwOQwUMv",
    "MwAENJETxLEERIwBAAz SEVENxUOwEEEExUNyTwFEUAEzTxIEExOyNwGBEUNyIEEyOFUMwONIwUwVOPvNDAMxEEyUXxONwGGAAM#AEzPyEUXyUOMyWAENxKAPyEUAEQ!RIyIEEyUNyYEEwIwJAPxEUAEMzTxIyEExUEQwSHEEyUTxIEEP!TxUMwTEEyUMxUUwUwYAMxETxIxUEvPAPwEExUTAEwIPwUQxUTvRAEMwEN MUCHzOLDwIIvSAPxQwEUAEQwHEEyUAEzXxIIxOQxUwOTwUAExExUvTAEwEEEExUAENyNyTwIwOQwUxOTvWAPwUAENvYAEMMAEwENwUOMyPxWOQtE AvFAxQwEEwOMwU CALLyIyREMEDYxEyTvGBETyUXwHAAMAExETyUAEzNzXxOMvIvKETxUAEyXwIwOwPEUXwUETxOPxTvLAAMxPxQwEUAEMwOMxONyTxQwUvMAxEyMxPxQwBEEyUMwENwFEUQwGBAyENwIxEEwONwUAEwVIvNAxEwDAA MY HOUSE!SOFTNESSyPxIAQyQxUNwGAxEUREUTxGEEEEzUAE$TyUAESHAE NYAMzPzRAExKAzAMIyEUAEM!XyUMzPxOPyQxUAE!TwJAEMLIxEEz EPOCHyUXwKOMwSHIEEyUEzOPwTAPxUMwYI BETWEENzCLEAVERwZAQxUQvOvPA PEOPLEzLURALxAyMwEEMxUTyXwIxEEQyTwOxONwUxAEyQxExMvRAExQwEUXwIMGBAvSAAwEExTwHEUAEQxIQxOyQwOMwUAENvTAAyQxEN NTEUMxMxQwENxUyAEQwOOyNxQwUAExMyAEvVEExUAEwOMvWEUXwUExOvYAPwEUAE!TyMyXwIEExTwOQ COVERzSWIMMINGwUAENxEQxNxQtF EEvFOMvKAwENxTwOwPAwUwYEEvLAwIwOQvMwAwBAAxENwEEEEwOvNDAAwGGAxKWAENwIwJAEMxUAEwSHAwTEE",
    "wUxAEwYIvPEExUXwUAEvREExNxUXwIEExIwUvSAMBAwEUXwHIIxOxUwIwUUvTAAxEwETvUvVUEQvWAwUEvYAwOQoIoUAEpEnRAEoEEpNpUXoIEEpIoUnSAMBAoEUXoHEUXpIIpOpUoIoUUnTAApEoENpToInUnWAoUEnYAoOQoUQgNJAEMLIgQUESTION MARKgSEMICOLONcNANAdJOdKeNOTE WITH DOLLAR SIGNoEURO SIGNoPOUND SIGNoYEN SIGNcR CHARTeOF SOAPdBER POLEcSEBALLdKETgBALL AND HOOPdSA VAH COMBINING HIGH TONEy-LOW TONEuLOW TONEx-MID TONEuMID TONEkFULL STOPkLETTER ArBArCErDHIIsOrEsEsNNIrFArGAHsBUrHWAHrIrJOrKAsPAHrMBErOsOrPArSErTOrUsWUrVUrWAtDDArYEINsIErZOcTdAK CONSONANT SIGN HvNGgLETTER AnBAnCAnDAnGAnHAnInJAnKARO BAnLAnMApNDAILING HAyNAySAoBAnNAoDAoGAoORTHERN TAoYAnPApKPAK WAnRAnSAoIMALUNGUN AyGAyHAyLAyMAyPAyRAySAyWAyYAoOUTHERN TAnUnWAnYAgPANGOLATjONGONANgSIGN TOMPIhYMBOL BINDU JUDULtNA METEKtPANGOLATuINARBORASgVOWEL SIGN EsErIrKARO IwOrOrPAKPAK ErUs FOR SIMALUNGUN SAdHeTUBdTERYbEACH WITH UMBRELLAdMED ASCENDING MUSICAL NOTEShDESCENDING MUSICAL NOTEShEIGHTH NOTEShSIXTEENTH NOTESdNSdR FACEeDED PERSONdTING HEARTdVERcCAUSEcDcER MUGdTLEcLdLe PEPPERfSYMBOLfWIT",
    "H CANCELLATION STROKEeHOP BELLcNGALI ABBREVIATION SIGNjNJIjU LENGTH MARKiCURRENCY DENOMINATOR SIXTEENrNUMERATOR FOUR#ONE& LESS THAN THE DENOMINATOR#THREE$WOiDIGIT EIGHToFIVEpOURoNINEoONEoSEVENpIXoTHREEpWOoZEROiGANDA MARKiISSHARiLETTER AqAqIqUpBAqHApCAqHApDAqDArHAqHApEpGAqHApHApIqIpJAqHApKAqHAsNDA TApLApMApNAqGAqNAqYApOpPAqHApRAr WITH LOWER DIAGONALxMIDDLE DIAGONALqHAqRApSAqHAqSApTAqHAqTArHApUqUpVEDIC ANUSVARAqOCALIC LyLxRyRpYAqYAiRUPEE MARKoSIGNiSANDHI MARKjIGN ANUSVARAoVAGRAHAnCANDRABINDUnNUKTAnVIRAMApSARGAiVOWEL SIGN AAuIuUtEtIuItOtUuUtVOCALIC L$L#R$RdT ARROW POINTING DOWNWARDS THEN NORTH EASTeO BOXdZENE RINGm WITH CIRCLEcT SYMBOLdWEENcVERAGE BOXbHAIKSUKI DANDAlIGIT EIGHTqFIVErOURqNINEqONEqSEVENrIXqTHREErWOqZEROlOUBLE DANDAkGAP FILLER-1v2kHUNDREDS UNIT MARKkLETTER AsAsIsUrBAsHArCAsHArDAsDAtHAsHArErGAsHArHArIsIrJAsHArKAsHArLArMArNAsGAsNAsYArOrPAsHArRArSAsHAsSArTAsHAsTAtHArUsUrVAsOCALIC LzR!RrYAkNUMBER EIGHTwYrFIFTYtVEsORTYtURrNINEvTYrONErSEVENwTYsIXuTYrTENsHIRTYtREEsWENTYtOkSIGN ANUSV",
    "ARAqVAGRAHApCANDRABINDUpVIRAMArSARGAkVOWEL SIGN AAwIwUvEvIwIvOvUwUvVOCALIC L%R&RkWORD SEPARATORbICYCLEgISTcG REVERSE SOLIDUSeSOLIDUScKINIcLLED CAPeIARDScOHAZARD SIGNcRDdTHDAY CAKEcSONcTCOIN SIGNdING LIPbLACK BOWTIEgCENTRE WHITE STARhHESS BISHOPs ROTATED NINETY DEGREES#TWO HUNDRED SEVENTY DEGREESmEQUIHOPPERw ROTATED NINETY DEGREESmKINGq ROTATED NINETY DEGREESzTWO HUNDRED SEVENTY DEGREESnNIGHTs ROTATED FORTY-FIVE DEGREES#NINETY DEGREES#ONE HUNDRED THIRTY-FIVE DEGREES#THREE HUNDRED FIFTEEN DEGREES$WO HUNDRED SEVENTY DEGREES<TWENTY-FIVE DEGREESs-BISHOPtQUEENtROOKmPAWNq ROTATED NINETY DEGREESzTWO HUNDRED SEVENTY DEGREESmQUEENr ROTATED NINETY DEGREES!TWO HUNDRED SEVENTY DEGREESmROOKq ROTATED NINETY DEGREESzTWO HUNDRED SEVENTY DEGREESmTURNED BISHOPtKINGuNIGHTtPAWNtQUEENtROOKhIRCLEm FOR RECORDnWITH DOWN ARROWsTWO WHITE DOTSsWHITE DOT RIGHThLUB SUIThROSS ON SHIELDhURVED DOWNWARDS AND LEFTWARDS ARROW#RIGHTWARDS ARROWnLEFTWARDS AND DOWNWARDS ARROW#UPWARDS ARROWnRIGHTWARDS AND DOWNWARDS ARROW$UPWA",
    "RDS ARROWnUPWARDS AND LEFTWARDS ARROWzRIGHTWARDS ARROWgDIAMONDn CENTREDoMINUS WHITE XoON CROSSoSUIToWITH DOWN ARROWhOWN POINTING BACKHAND INDEXk-POINTING DOUBLE TRIANGLEuISOSCELES RIGHT TRIANGLEuSMALL TRIANGLEuTRIANGLEkWARDS EQUILATERAL ARROWHEADhRAUGHTS KINGpMANiOPLETgFLAGiORETTEhOLDERiUR POINTED STARgHARD SHELL FLOPPY DISKhEARTl SUITiXAGONhORIZONTAL ELLIPSEiURGLASSgLARGE CIRCLEmSQUAREhEFT LANE MERGElPOINTING BACKHAND INDEXuINDEXk-POINTING DOUBLE TRIANGLE, WITH VERTICAL BARuISOSCELES RIGHT TRIANGLEuPOINTERuSMALL TRIANGLEuTRIANGLEkWARDS BULLETqEQUILATERAL ARROWHEADhOWER LEFT TRIANGLEmRIGHT TRIANGLEiZENGEgMEDIUM DIAMONDoOWN-POINTING TRIANGLE, CENTREDnLEFT-POINTING TRIANGLE, CENTREDoOZENGEnRIGHT-POINTING TRIANGLE. CENTREDnSMALL DIAMONDtLOZENGEtSQUAREoQUAREnUP-POINTING TRIANGLE* CENTREDhOON LILITHgNIBgOCTAGONgPARALLELOGRAMhENNANTjTAGONhUSHPINgQUESTION MARK ORNAMENTgRECTANGLEhIGHT POINTING BACKHAND INDEXvINDEXl-POINTING DOUBLE TRIANGLE. WITH VERTICAL BARvISOSCELES RIGHT TRIANGLEvPENTAGONwO",
    "INTERvSMALL TRIANGLEvTRIANGLE% WITH DOUBLE VERTICAL BARlWARDS ARROWwHEADrBULLETrEQUILATERAL ARROWHEADhOSETTEgSAFETY SCISSORShCISSORShHOGI PIECEhKULL AND CROSSBONEShLIGHTLY SMALL CIRCLEvSQUAREhMALL DIAMONDmLOZENGEmSQUAREnTARiILING FACEhNOWMANhPADE SUIThQUAREm BUTTONnCENTREDnFOR STOPhTARhUN WITH RAYSgTELEPHONEhINY DIAMONDlLOZENGElSQUAREhOUCHTONE TELEPHONEhRUCKhWO-WAY LEFT WAY TRAFFICgUNIVERSAL RECYCLING SYMBOLhP POINTING BACKHAND INDEXi-POINTING DOUBLE TRIANGLEsISOSCELES RIGHT TRIANGLEsSMALL TRIANGLEsTRIANGLEiPER LEFT TRIANGLEmRIGHT TRIANGLEiWARDS EQUILATERAL ARROWHEADgVERTICAL ELLIPSEpRECTANGLEjY SMALL DIAMONDrLOZENGErSQUAREf-FEATHERED NORTH EAST ARROWqRIGHTWARDS ARROWqSOUTH EAST ARROWgLETTER CAPITAL CvHvIvRvZdNK SYMBOLcOCK SEXTANT-1p2q3r4s5s6r5s6r6q4r5s6r6q5r6q6p3q4r5s6r6q56q6p4q5r6q6p5q6p6o2p3q4r5s6r6q5r6q6p4q5r6p5q6p6o3p4q5r6q6p5q6p6o4p5q6p6o5p6o6dSSOMdWFISHcUE BOOKfHEARTeBERRIESbOARcLD EIGHT SPOKED ASTERISKfFIVE SPOKED ASTERISKfGREEK CROSSfSALTIREgIX SPOKED ASTERISKfWHITE CIRCLElSQU",
    "AREcMdBcNEcOKeMARKi TABSeSdMERANGcPOMOFO FINAL LETTER GwHwKwPwTjLETTER ArHrIsNNrMrNsGsNrUsNNqBrUqCrHqDqErErHrIrNsGsNrRqFqGrHrNrUrWqHqIrHrMrNNtNrRrUqJrIqKrWqLrHqMqNrGsGrNqOr WITH DOT ABOVErErMrNGsNrOrUqPqQqRqSrHqTqUrNNqVqXqZrHrIrYcTTLE WITH POPPING CORKeOM ARC ANTICLOCKWISE ARROWhCURLY BRACKEThHALF BLACK CIRCLEmINTEGRALmLEFT PARENTHESISmRIGHT PARENTHESIShLEFT CORNERnROPmHALF BRACKEThPARENTHESIShRIGHT CORNERoROPnHALF BRACKEThSQUARE BRACKETv OVER TOP SQUARE BRACKEThTORTOISE SHELL BRACKETcUQUETh OF FLOWERScW AND ARROWdL OF HYGIEIAfWITH SPOONeINGdTIEg WITH LEFT HALF BLACKmRIGHT HALF BLACKcX DRAWINGS DOUBLE DOWN AND HORIZONTAL%LEFT%RIGHTuHORIZONTALuUP AND HORIZONTAL#LEFT#RIGHTuVERTICAL$ AND HORIZONTAL*LEFT*RIGHTpWN DOUBLE AND HORIZONTAL SINGLE%LEFT SINGLE%RIGHT SINGLEsHEAVY AND HORIZONTAL LIGHT$LEFT LIGHT*UP LIGHT$RIGHT LIGHT+UP LIGHT$UP HORIZONTAL LIGHTsLIGHT AND HORIZONTAL HEAVY$LEFT HEAVY*UP HEAVY$RIGHT HEAVY+UP HEAVY$UP HORIZONTAL HEAVYsSINGLE AND HORIZONTAL DOUBLE%LEFT DOUBLE%RIGHT DOUB",
    "LEnHEAVY DOUBLE DASH HORIZONTAL(VERTICALvWNx AND HORIZONTAL$LEFT$RIGHTtHORIZONTALtLEFTx AND LIGHT RIGHTtQUADRUPLE DASH HORIZONTAL+VERTICALtRIGHTtTRIPLE DASH HORIZONTAL(VERTICALtUPv AND HORIZONTAL!LEFT#IGHT DOWN!RIGHTtVERTICAL# AND HORIZONTAL)LEFT)RIGHTnLEFT DOWN HEAVY AND RIGHT UP LIGHTsHEAVY AND RIGHT DOWN LIGHT+UP LIGHT+VERTICAL LIGHTsLIGHT AND RIGHT DOWN HEAVY+UP HEAVY+VERTICAL HEAVYsUP HEAVY AND RIGHT DOWN LIGHToIGHT ARC DOWN AND LEFT)RIGHTxUP AND LEFT&RIGHTtDIAGONAL CROSS$DIAMOND$MIDDLE LEFT TO LOWER CENTRE~CENTRE TO MIDDLE RIGHT@UPPER CENTRE TO MIDDLE RIGHT~CENTRE TO MIDDLE RIGHT TO LOWER CENTRE,RIGHT TO LOWER CENTRE[UPPER CENTRE TO MIDDLE LEFT TO LOWER CENTRE$UPPER CENTRE TO MIDDLE LEFT~E LEFT AND MIDDLE RIGHT TO LOWER CENTRE~E LEFT TO LOWER CENTRE~E LEFT TO LOWER CENTRE TO MIDDLE RIGHT~E RIGHT~E RIGHT AND MIDDLE LEFT TO LOWER CENTRE~E RIGHT TO LOWER CENTRE~E RIGHT TO LOWER CENTRE TO MIDDLE LEFT+LEFT TO LOWER RIGHT+RIGHT TO LOWER LEFTuOUBLE DASH HORIZONTAL(VERTICALvWNx AND HORIZ",
    "ONTAL$LEFT$RIGHTtHORIZONTAL% WITH VERTICAL STROKEtLEFTx AND HEAVY RIGHTtQUADRUPLE DASH HORIZONTAL+VERTICALtRIGHTtTRIPLE DASH HORIZONTAL(VERTICALtUPv AND HEAVY DOWN#ORIZONTAL!LEFT!RIGHTtVERTICAL# AND HORIZONTAL)LEFT)RIGHTnRIGHT DOWN HEAVY AND LEFT UP LIGHTtHEAVY AND LEFT DOWN LIGHT+UP LIGHT+VERTICAL LIGHTtLIGHT AND LEFT DOWN HEAVY+UP HEAVY+VERTICAL HEAVYtUP HEAVY AND LEFT DOWN LIGHTnUP DOUBLE AND HORIZONTAL SINGLE#LEFT SINGLE#RIGHT SINGLEqHEAVY AND DOWN HORIZONTAL LIGHT!HORIZONTAL LIGHT!LEFT DOWN LIGHT(LIGHT!RIGHT DOWN LIGHT)LIGHTqLIGHT AND DOWN HORIZONTAL HEAVY!HORIZONTAL HEAVY!LEFT DOWN HEAVY(HEAVY!RIGHT DOWN HEAVY)HEAVYqSINGLE AND HORIZONTAL DOUBLE#LEFT DOUBLE#RIGHT DOUBLEnVERTICAL DOUBLE AND HORIZONTAL SINGLE*LEFT SINGLE*RIGHT SINGLEwHEAVY AND HORIZONTAL LIGHT)LEFT LIGHT)RIGHT LIGHTwLIGHT AND HORIZONTAL HEAVY)LEFT HEAVY)RIGHT HEAVYwSINGLE AND HORIZONTAL DOUBLE*LEFT DOUBLE*RIGHT DOUBLEdING GLOVEcYdS SYMBOLbPHbRAHMI DANDAiIGIT EIGHTnFIVEoOURnNINEnONEnSEVENoIXnTHREEoWOnZEROiOUBLE DANDA",
    "hLETTER ApApIpUoBApHAoCApHAoDApDAqHApHAoEoGApHAoHAoIpIoJApHAoKApHAoLApLAoMAoNApGApNApYAoOpLD TAMIL LLA!LAyNNNAyRRAySHORT E&OoPApHAoRAoSApHApSAoTApHApTAqHAoUpUoVApOCALIC LxLwRxRoYAhNUMBER EIGHTtYoFIFTYqVEpORTYqURoJOINERoNINEsTYoONEr HUNDREDsTHOUSANDoSEVENtTYpIXrTYoTENpHIRTYqREEpWENTYqOhPUNCTUATION CRESCENT BARtDOTvUBLE DOTtLINEuOTUShSIGN ANUSVARAmCANDRABINDUmJIHVAMULIYAmOLD TAMIL VIRAMAmUPADHMANIYAmVISARGAhVIRAMAiOWEL SIGN AAtItUsBHATTIPROLU AAsEsItIsOtLD TAMIL SHORT E+OsUtUsVOCALIC L#L!R#RdILLE PATTERN BLANKqDOTS-1w2x3y4z5!6#7$8#8!7#8!8z6!7#8!8z7!8z8y5z6!7#8!8z7!8z8y6z7!8z8y7z8y8x4y5z6!7#8!8z7!8z8y6z7!8z8y7z8y8x5y6z7!8z8y7z8y8x6y7z8y8x7y8x8w3x4y5z6!7#8!8z7!8z8y6z7!8z8y7z8y8x5y6z7!8z8y7z8y8x6y7z8y8x7y8x8w4x5y6z7!8z8y7z8y8x6y7z8y8x7y8x8w5x6y7z8y8x7y8x8w6x7y8x8w7x8w8v2w3x4y5z6!7#8!8z7!8z8y6z7!8z8y7z8y8x5y6z7!8z8y7z8y8x6y7z8y8x7y8x8w4x5y6z7!8z8y7z8y8x6y7z8y8x7y8x8w5x6y7z8y8x7y8x8w6x7y8x8w7x8w8v3w4x5y6z7!8z8y7z8y8x6y7z8y8x7y8x8w5x6y7z8y8x7y8x8w6x7y8x8w7x8w8v4w5x6y7z8y8x7y8x8w6x7y8x8w7x8w8v5",
    "w6x7y8x8w7x8w8v6w7x8w8v7w8v8eNcEADeK PERMITTED HEREeST-FEEDINGdVEcICKdDE WITH VEILeGE AT NIGHTdEFCASEfScOCCOLIdKEN BARhCIRCLE WITH NORTHWEST ARROWhHEARTdOMdWN HEARTbSbUBBLE TEAgScCKETcGdINESE END OF SECTIONjLETTER AqBAqCAqDAqGAqHAqJAqKAqLAqMArPAqNArGAsKArRArYAsCAqPAqRAqSAqTAqVAqYAjPALLAWAjVOWEL SIGN AEuEuIuOuUcHID LETTER AnBAnDAnGAnHAnInKAnLAnMAnNAoGAnPAnRAnSAnTAnUnWAnYAgVOWEL SIGN IrUcILDING CONSTRUCTIONcLLETg OPERATOReHORNi WITH SOUND WAVESeSEYEcRRITOcSd STOPdT IN SILHOUETTEeS IN SILHOUETTEcTTERgFLYbYTE ORDER MARKcZANTINE MUSICAL SYMBOL AGOGI ARGI+OTERI(GORGI,OTERI(MESI*TRIA(POLI ARGI.GORGI!NATRICHISMA#TIKENOKYLISMA*MA!PESO EKFONITIKON)XO NEO#LI#ODERMA ARCHAION+NEO$STROFOI SYNDESMOS NEO.TELOUS ICHIMATOS+S, DIPLI.NEO$THEMA!RGON%SYNTHETON#KTIKO DI*GA*KE*NI*PA*VOU*ZOzCHAMILI(ON#OREVMA ARCHAION+NEO#ROA KLITON(SPATHI(ZYGOSzDASEIA!IARGON$STOLI APLI MEGALI=IKRI+DIPLI+THESEOS#ESIS APLI DYO DODEKATA)DIGRAMMOS EX DODEKATA)MONOGRAMMOS TESSERA DODEKATA)TETARTIMORION*RIGRAMMOS OKTO DODEKATA,TIMOR",
    "ION#FTOGGOS OU#GORGON* PARESTIGMENON ARISTERA ANO~RISTERA KATO|DEXIA$RAMMA GG#PLI& ARCHAION!YOzEKSTREPTON!LAFRON!NARXIS KAI FTHORA VOU#DOFONON!PEGERMA!TERON ARGOSYNTHETON)PARAKALESMA!XO EKFONITIKONzFANEROSIS DIFONIAS,MONOFONIAS,TETRAFONIAS!HTORA SKLIRON CHROMA VASIS!THORA ARCHAION= DEYTEROU ICHOU)DIATONIKI DI?KE?NANA@I ANO]KATO?PA?ZO)ENARMONIOS ANTIFONIA)I YFESIS TETARTIMORION)MALAKON CHROMA DIFONIAS_MONOFONIAS)NAOS ICHOS*ENANO)SKLIRON CHROMA SYNAFI_VASIS=DIATONON DIzGENIKI DIESIS)YFESIS!ORGON ARCHAION)NEO ANO.KATO)PARESTIGMENON ARISTERA^DEXIA&SYNTHETON$THMIKON N APLOUN;DIPLOUN!RONTHISMATAzICHADIN!MIDIARGON$FONON%THORA*ON!SAKIA TELOUS ICHIMATOS#ON ARCHAION&NEOzKATAVA TROMIKON(SMA$HISTI!ENTIMA ARCHAION*NEO ANO:KATO:MESO)TA+ ARCHAION,NEO ANO<KATO<MESO!LASMA( ANO)KATO!ONTEVMA* ALLO#RONIS#UFISMA!RATIMA ALLO+RCHAION*NEO)TA(OKOUFISMA)YPORROON#EMASTI!YLISMAzLEIMMA DYO CHRONON)ENOS CHRONOU)IMISEOS CHRONOU)TESSARON CHRONON*RION CHRONON#MOI!YGISMAzMARTYRIA ALLI DEYTEROS ICHOS<PROTOS ICHOS+DEYTER",
    "OS ICHOS+LEGETOS ICHOS+PLAGIOS ICHOS?TETARTOS ICHOS,ROTOS ICHOS<VARYS ICHOS+TETARTOS ICHOS@LEGETOS ICHOS,RIFONIAS:TOS ICHOS+VARYS ICHOS!IKRON ISONzNANAzOLIGON ARCHAION)NEO!MALON!XEIA DIPLI(EKFONITIKON(NEO&I ARCHAION!YRANISMA ARCHAION,NEOzPARAKALESMA ARCHAION:NEO&LITIKI. ARCHAION:NEO$ICHON!ELASTON* NEO#RISPOMENI#TASMA&TI(OKOUFISMA!IASMA ARCHAION)NEO!SIFISTOLYGISMA*N+ NEO*PARAKALESMA*SYNAGMA$LI%ONzRAPISMA!EVMAzSAXIMATA!EISMA( NEO!IMANSIS ARSEOS= DISIMOU>TETRASIMOU?RISIMOU+THESEOS> DISIMOU?TETRASIMOU@RISIMOU!TAVROS) APODEXIA#IGMA#RAGGISMATA!YNAGMA ARCHAION*META STAVROU*NEO$EVMA#RMA&TIKIzTELEIA#SSERA#TRAPLI!HEMA& APLOUN&TISMOS ESO;XO$S KAI APOTHES#ITA!INAGMA!RIA$GORGON$PLI#OMIKOLYGISMA)N ALLO,RCHAION+NEO)PARAKALESMA*SIFISTON)SYNAGMAzVAREIA DIPLI)EKFONITIKON)NEO(I ARCHAION#THYzXIRON KLASMAzYFEN ANO&KATO$SIS APLI DYO DODEKATA)DIGRAMMOS EX DODEKATA)MONOGRAMMOS TESSERA DODEKATA)TRIGRAMMOS OKTO DODEKATA,TIMORION!POKRISIS+ DIPLI$RROI#SILIaCACTUScDA UNAdUCEUScLENDARdL ME HANDcMERAg WITH FLASHdPIN",
    "GcNdADIAN SYLLABICS AuAvIvYuIvVILIK BuNuTHAPASCAN M&SuYtBEAVER DENE L(RuIBLE-CREE YuLACKFOOT A%E%I%KA&E&I&O%NA&E&I&O%O%S%W&A&E&I&OtCuAvAwIvRRIER CHA%E&E%I%O%U#DEE%NE GEE&TAL S$I$LA%E&E%I%O%U$ZA%E&E%I%O%U#EE#GA%A$E%E$HA%E&E%I%O%U$I$O$U$WA%U#H$EE$I$WA%E&E%I%O%U#I$NITIAL Z#JA$E%E$I$JA%E&E%I%O%U$O$U$WA#KHA%E&E%I%O%U$K%A%E&E%I%O%U#LA$E%E$HA%E&E%I%O%U$I$O$U#MA$E%E$I$O$U#NA$E%E$G$I$O$U#P$A$E%E$I$O$U#RA$E%E$I$O$U#SA$E%E$H%A%E&E%I%O%U$I$O$U#THA%E&E%I%O%U$LA%E&E%HA&E(E&I&O&U%I%O%U$SA%E&E%I%O%U$TA%E&E%I%O%SA&E(E&I&O&U%U#WA$E%E$I$O$U#YA$E%E$I$O$U#Z$A$E%E$I$O$UuEuHI SIGNuIvIuOvOuWAwAvEvIwIvOwOtEuASTERN WuNtFuAvAwIuEuIvIvNAL ACUTEzBOTTOM HALF RINGzDOUBLE ACUTE)SHORT VERTICAL STROKES#WN TACKzGRAVEzMIDDLE DOTzPLUSzRAISED DOT!IGHT HALF RING#NGzSHORT HORIZONTAL STROKE!MALL RINGzTOP HALF RINGuOvOuULL STOPuWAAtGLOTTAL STOPtHKuYPHENtIuIuNtKuAvAwIvYuEuIvIuOvOuWvAwAwYvEvIwIvOwOtLuAvAwIvYuEuHvAwAvIwIvOwOuIvIuOvOuWAwAvEvIwIvOwOtMuAvAwIvYuEvDIAL L!RuHuIvIuOvOwSE-CREE SKuWAwAvEvIwIvOwOtNu-CREE THE$I%IuAvAwIvSKAP",
    "I CWAA#KWAA#MWAA#NWAA#S-W$CWA$KW&A$PWA$TWA$WAA#TWAA#WAA$OO#YWAAvTTILIK HA&A%I&I%O&O$SHRA)A(I)I(O)OvYuEuGvAwAxIwIvIwIvOwOuHuIvIuNGwAxAwIxIwOxOuOvOvYuUNAVIK H$A%A$E$I%I$O%OyUT HuWAwAvEvIwIvOwOtOuJIBWAY C#K#M#N$WI&I%O&O#P#S$H#TuNuOuYtPuAvAwIvYuEuIvIuOvOvYuWAwAvEvIwIvOwOwYtQuAvAwIvIuIvIuOvOtRu-CREE RE#WEuAvAwIvYuEuIvIuOvOuWAwAvEEvIwIvOwOtSuAvAwIvYwISI HA#E#I#O$O!JI#U$U!M!SHA$E$I$O%O$WE!TH!YIuEuHvAwAwYvEvIwIvOwOwYvWAxAwEwIxIwOxOxYuIvIuOvOvUTH-SLAVEY KAH*EH*IH*OHvYuPAvEvIvOuWvAwAvEvIwIvOwOtTuAvAwIvYuEuHv-CREE TH%A&A%E%I&I%O&OvAwAvEvIwIvOwOvWAxAwEuIvIuLHAwEwIwOxOwWEuOvOuTAvEvHwAxAwEwIwOxOwWEvIvOuWAwAvEvIwIvOwOuYAvEvIvOtWAvAvYuEvST-CREE CWA)A(E(I)I(O)O%FWAA%KWA)A(E(I)I(O)O%L&A(A&E&O(O&WA)A(E(I)I(O)O%M&WA)A(E(I)I(O)O%NWA)A(E%P&WA)A(E(I)I(O)O%R&A&E&I&O&WAA%SHWA*A)E)I*I)O*O&WA)A(E(I)I(O)O%THWAA&WA)A(E(I)I(O)O%WA(A&E&I(I&O(O%Y&WA)A(E(I)I(O)OxERN WuIvIuOvOwDS-CREE FINAL TH&TH)A)E)I)O)WA+A*EE*I+I*O+OtYu-CREE COO!KOO!LOO!MOO!NOO!OO!POO#WAA!SOO!TOO!W!YOOuAvAwIvYuEuIvIuOvOvYuWAwAvEvIwIvOwOdCELg CHARACT",
    "ERhTAGgLATION XfRdDLEeYdNED FOODdOEcPITULUMdRICORNcR SLIDINGdD FILE BOXfINDEXk DIVIDERSdE OFeTf INSERTION POINTdIAN LETTER Ap2oBoC-18q39oDp2oEp2oGp2oIpIoKp2oLpDq2oMpBq2q3q4oNpDpGpNoOoPp2oQoRpRoSpHq2pSpTq2oTpTq2oUpUqUr2r3rUoXdONeUSEL HORSEdP STREAMEReENTRY SAWdRIAGE RETURNeOTcSTLEcTd FACEi WITH TEARS OF JOYoWRY SMILEcUCASIAN ALBANIAN CITATION MARKtLETTER ALT#OR!BET!CAR$YN#HA%T$I$OY#YAW%Y!DAT#YAN#ZAY$YAY!EB#YN!FAM!GHEYS#IM!HEYT!INYA#RB#WN!JAYN#HOX!KAR#IW!LAN#YIT!MAQ!NOWC!ON!PEN#IWR!QAR$Y!RAT!SEYK#HA%K$OY!TAS#IWR#YAY!VEYZ!XEYN!YAYD#OWD!ZARL#HA$ILdTION SIGNbCHbEDI SIGNeLLAcLTIC CROSScNT SIGNeRE LINE SYMBOLgLINE LOW LINElOVERLINEcRESbGJbHAINSeRdKMA AU MARKhDANDAiIGIT EIGHTnFIVEoOURnNINEnONEnSEVENoIXnTHREEoWOnZEROiOUBLE DANDAhLETTER AAoBAApHAAoCAApHAAoDAApDAAqHAApHAAoEoGAApHAAoHAAoIoJAApHAAoKAApHAAoLAApHAAoMAAoNAApGAApNAApYAAoPAApHAAoRAAoSAAoTAApHAApTAAqHAAoUoVAAoWAAoYAApYAAhMAAYYAAhO MARKhQUESTION MARKhSECTION MARKiIGN ANUSVARAmCANDRABINDUmVISARGAhVIRAMAiOWEL SIGN AtAtItUsEtIsItIsOtIsUtUdM ",
    "CONSONANT SIGN FINAL H!M!NGuLAuRAuWAuYAfDIGIT EIGHTlFIVEmOURlNINElONElSEVENmIXlTHREEmWOlZEROfLETTER AnImBAnBAnHAmCHAoHAmDAnDAnHAmEmFINAL CHsGsKsLsNtGsPsRsSSsTsYmGAnHAmHAmImJAnHAmKAnHAmLAmMAnUEmNAnGAoUEnHAoJAoUEnUEmOmPAnHAnPAmRAmSAnSAmTAnHAmUmVAmYAfPUNCTUATION DANDAsOUBLE DANDArSPIRALrTRIPLE DANDAfVOWEL SIGN AArIrUqEIqIrIqOrEqUrEdRACTER TABULATIONu SETvWITH JUSTIFICATIONlIEeT WITH DOWNWARDS TRENDlUPWARDS TRENDy AND YEN SIGNcECK MARKfER BOARDn FILLdERING MEGAPHONEeSE WEDGEdQUERED FLAGdROKEE LETTER AqDArErIrLArOrUrVqEqGArErIrOrUrVqHArErIrNArOrUrVqIqKAqLArErIrOrUrVqMArErIrOrUrVqNAsHrErIrOrUrVqOqQUAsEsIsOsUsVqSrArErIrOrUrVqTArErIrLAsEsIsOsUsVrSAsEsIsOsUsVqUqVqWArErIrOrUrVqYArErIrOrUrVjSMALL LETTER AwDAxExIxLAxOxUxVwEwGAxExIxOxUxVwHAxExIxNAxOxUxVwIwKAwLAxExIxOxUxVwMAxExIxOxUxVwNAyHxExIxOxUxVwOwQUAyEyIyOyUyVwSxAxExIxOxUxVwTAxExIxLAyEyIyOyUyVxSAyEyIyOyUyVwUwVwWAxExIxOxUxVwYAxExIxOxUxVeRIESfY BLOSSOMdSTNUTcI RHOdCKENdLDfREN CROSSINGdPMUNKdRONcOCOLATE BARdPSTICKSdRASMIAN LETTER ALEPHtYINsBETHsCU",
    "RLED WAWsDALETHsGIMELsHEuTHsKAPHsLAMEDHsMEMsNUNsPEsRESHsSAMEKHtHINtMALL ALEPHsTAWsWAWsYODHsZAYINlNUMBER FOURsONEv HUNDREDsTENtHREEtWENTYuOcRISTMAS TREEcURCHbINEMAcRCLE DIVIDED BY HORIZONTAL BAR AND TOP HALF DIVIDED BY VERTICAL BARhWITH ALL BUT UPPER LEFT QUADRANT BLACKmHORIZONTAL BARmLEFT HALF BLACKnOWER HALF BLACKmRIGHT HALF BLACKmSMALL CIRCLE TO THE RIGHTnUPERIMPOSED XmTWO HORIZONTAL STROKES TO THE RIGHTmUPPER HALF BLACKsRIGHT QUADRANT BLACKmVERTICAL FILLgD ANTICLOCKWISE ARROWv-ROTATED DIVISION SIGNjSTERISK OPERATORiBOLD XjULLETiC WITH OVERLAID BACKSLASHjCjDjROSS FORMEEu WITH FOUR DOTS!TWO DOTSoPOMMEEnING LANESiDASHjIGIT EIGHToFIVEpOURoNINEoONEoSEVENpIXoTHREEpWOoZEROkVISION SIGNsLASHjOLLAR SIGN WITH OVERLAID BACKSLASHkT OPERATORiEQUALSiGREATER-THANiHANGUL CHIEUCHw AqIEUCu ApHIEUHu ApIEUNGu AvUpKHIEUKHw AqIYEOKv ApMIEUMu ApNIEUNu ApPHIEUPHw AqIEUPu ApRIEULu ApSIOSt ApTHIEUTHw AqIKEUTv AjEAVY WHITE RIGHTWARDS ARROWjORIZONTAL BAR WITH NOTCHjUMAN FIGUREiIDEOGRAPH ACCEPTtDVANTAGEtLLIANCEt",
    "TTENTIONsCENTREtONGRATULATIONuPYuRRECTsEARTHtIGHTtNTERPRISEtXCELLENTsFEMALEtINANCIALuREuVEtOURsHAVEtIGHsITEMsKINDERGARTENtOTOsLABORtEFTtOWsMALEtEDICINEuTALtOONsNAMEtIGHTuNEsONEsPRINTsQUESTIONsRELIGIONuSOURCEvTtIGHTsSCHOOLtECRETuVENtIXtOCIETYtPECIALtTOCKuUDYtUITABLEuNuPERVISEsTENtHREEtWOsWATERtOODjNFORMATION SOURCEjTALIC LATIN CAPITAL LETTER C.RiKATAKANA ArErHAsEsIsOsUrIrKAsEsIsOsUrMAsEsIsOsUrNAsEsIsOsUrOrRAsEsIsOsUrSAsEsIsOsUrTAsEsIsOsUrUrWAsEsIsOrYAsOsUjOREAN CHARACTER CHAMKOzJUEUIiLATIN CAPITAL LETTER A%B%C%D%E%F%G%H%I%J%K%L%M%N%O%P%Q%R%S%T%U%V%W%X%Y%ZoSMALL LETTER A#B#C#D#E#F#G#H#I#J#K#L#M#N#O#P#Q#R#S#T#U#V#W#X#Y#ZjESS-THANiMINUSjULTIPLICATION SIGN WITH CIRCUMFLEX ACCENTiNUMBER EIGHTEENuY ON BLACK SQUAREqLEVENpFIFTEENtYu ON BLACK SQUAREqORTYu EIGHTvFIVEwOURvNINEvON BLACK SQUARExEvSEVENwIXvTHREEwWOrURTEENpNINETEENpSEVENTEENvY ON BLACK SQUAREqIXTEENtY ON BLACK SQUAREpTENs ON BLACK SQUAREqHIRTEENuYv EIGHTwFIVExOURwNINEwON BLACK SQUAREyEwSEVENxIXwTHREExWOqWELVEsNTYv EIGHTwFIVExOURwNINEw",
    "ON BLACK SQUAREyEwSEVENxIXwTHREExWOiOPEN CENTRE EIGHT POINTED STARiPARALLELjERPENDICULARjLUSjOSTAL MARKiREVERSE SOLIDUSjING OPERATORiSQUAREiTIMESjRIANGLEq DOWNiVERTICAL BARiWHITE BULLEToSTARjZiXiZERO WITH SLASHeULATION FUNCTIONfMFLEX ACCENTfS TENTcTYSCAPEj AT DUSKbJK COMPATIBILITY IDEOGRAPH-2F800)1)2)3)4)5)6)7)8)9)A)B)C)D)E)F(10)1)2)3)4)5)6)7)8)9)A)B)C)D)E)F(20)1)2)3)4)5)6)7)8)9)A)B)C)D)E)F(30)1)2)3)4)5)6)7)8)9)A)B)C)D)E)F(40)1)2)3)4)5)6)7)8)9)A)B)C)D)E)F(50)1)2)3)4)5)6)7)8)9)A)B)C)D)E)F(60)1)2)3)4)5)6)7)8)9)A)B)C)D)E)F(70)1)2)3)4)5)6)7)8)9)A)B)C)D)E)F(80)1)2)3)4)5)6)7)8)9)A)B)C)D)E)F(90)1)2)3)4)5)6)7)8)9)A)B)C)D)E)F(A0)1)2)3)4)5)6)7)8)9)A)B)C)D)E)F(B0)1)2)3)4)5)6)7)8)9)A)B)C)D)E)F(C0)1)2)3)4)5)6)7)8)9)A)B)C)D)E)F(D0)1)2)3)4)5)6)7)8)9)A)B)C)D)E)F(E0)1)2)3)4)5)6)7)8)9)A)B)C)D)E)F(F0)1)2)3)4)5)6)7)8)9)A)B)C)D)E)F&900)1)2)3)4)5)6)7)8)9)A)B)C)D)E)F(10)1)2)3)4)5)6)7)8)9)A)B)C)D)E)F(20)1)2)3)4)5)6)7)8)9)A)B)C)D)E)F(30)1)2)3)4)5)6)7)8)9)A)B)C)D)E)F(40)1)2)3)4)5)6)7)8)9)A)B)C)D)E)F(50)1)2)3)4)",
    "5)6)7)8)9)A)B)C)D)E)F(60)1)2)3)4)5)6)7)8)9)A)B)C)D)E)F(70)1)2)3)4)5)6)7)8)9)A)B)C)D)E)F(80)1)2)3)4)5)6)7)8)9)A)B)C)D)E)F(90)1)2)3)4)5)6)7)8)9)A)B)C)D)E)F(A0)1)2)3)4)5)6)7)8)9)A)B)C)D)E)F(B0)1)2)3)4)5)6)7)8)9)A)B)C)D)E)F(C0)1)2)3)4)5)6)7)8)9)A)B)C)D)E)F(D0)1)2)3)4)5)6)7)8)9)A)B)C)D)E)F(E0)1)2)3)4)5)6)7)8)9)A)B)C)D)E)F(F0)1)2)3)4)5)6)7)8)9)A)B)C)D)E)F&A00)1)2)3)4)5)6)7)8)9)A)B)C)D)E)F(10)1)2)3)4)5)6)7)8)9)A)B)C)D$F900(1(2(3(4(5(6(7(8(9(A(B(C(D(E(F&10(1(2(3(4(5(6(7(8(9(A(B(C(D(E(F&20(1(2(3(4(5(6(7(8(9(A(B(C(D(E(F&30(1(2(3(4(5(6(7(8(9(A(B(C(D(E(F&40(1(2(3(4(5(6(7(8(9(A(B(C(D(E(F&50(1(2(3(4(5(6(7(8(9(A(B(C(D(E(F&60(1(2(3(4(5(6(7(8(9(A(B(C(D(E(F&70(1(2(3(4(5(6(7(8(9(A(B(C(D(E(F&80(1(2(3(4(5(6(7(8(9(A(B(C(D(E(F&90(1(2(3(4(5(6(7(8(9(A(B(C(D(E(F&A0(1(2(3(4(5(6(7(8(9(A(B(C(D(E(F&B0(1(2(3(4(5(6(7(8(9(A(B(C(D(E(F&C0(1(2(3(4(5(6(7(8(9(A(B(C(D(E(F&D0(1(2(3(4(5(6(7(8(9(A(B(C(D(E(F&E0(1(2(3(4(5(6(7(8(9(A(B(C(D(E(F&F0(1(2(3(4(5(6(7(8(9(A(B(C(D(E(F%A00(1(2(3(4(5(6(7(8(9(A(B(C(D(E(F&10(1(2(3(4(5(6(7(8(9(",
    "A(B(C(D(E(F&20(1(2(3(4(5(6(7(8(9(A(B(C(D(E(F&30(1(2(3(4(5(6(7(8(9(A(B(C(D(E(F&40(1(2(3(4(5(6(7(8(9(A(B(C(D(E(F&50(1(2(3(4(5(6(7(8(9(A(B(C(D(E(F&60(1(2(3(4(5(6(7(8(9(A(B(C(D&70(1(2(3(4(5(6(7(8(9(A(B(C(D(E(F&80(1(2(3(4(5(6(7(8(9(A(B(C(D(E(F&90(1(2(3(4(5(6(7(8(9(A(B(C(D(E(F&A0(1(2(3(4(5(6(7(8(9(A(B(C(D(E(F&B0(1(2(3(4(5(6(7(8(9(A(B(C(D(E(F&C0(1(2(3(4(5(6(7(8(9(A(B(C(D(E(F&D0(1(2(3(4(5(6(7(8(9eRADICAL BAMBOOnLUEnOLT OF CLOTHoNEoXnRUSH ONEsTWOmC-SIMPLIFIED BIRDzCARTzDRAGONzEAT!VENzFISH!LY!ROGzGATE!OLDzHORSEzLEAF!ONGzSALT!EE!HELL!ILK!PEECHzTANNED LEATHER!OOTH!URTLEzWINDnHOKEnITYoVILIANnLIFFoOTHESnOWmDEATHnIVINATIONnOGmEAT ONEqTHREErWOnWEnYEmFIREnOOTmGHOSTnRASS ONEsTHREEtWOmHANDnEADpRT ONEsTWOnORNmJ-SIMPLIFIED DRAGONzEVENzTOOTH!URTLEnADEmKNIFE ONEsTWOmLAME FOURrONErTHREEsWOnONG ONErTWOmMEAToSHnOONoRTARoTHERoUND ONEsTWOmNET FOURqONEqTHREErWOmOLDmPAW ONEqTWOnERSONmRAINoMoPnEPEATmSEALoCOND ONEtTHREEuWOnHEEPnILKoMPLIFIED HALF TREE TRUNKyORNxWALKyHEATxYELLOWnMALL ONEsTWOnNAKEoOUT ONEsTWOnPIRIT ONEt",
    "TWOnUNmTABLEnHREADnIGERnURTLEmWALK ONErTWOoTER ONEsTWOnEST ONErTWOeSTROKE BXGlDlHmGmPnWGmXWGmZnGnTnWoGnZoPoZpGlNlPmDmGmZlQlSmGmPmTmWnGnZmZnWGnZlTmNlWGlXGbLAMSHELL MOBILE PHONEdPPER BOARDfING HANDS SIGNdSSICAL BUILDINGcEAR SCREEN SYMBOLcINKING BEER MUGSjGLASSESdPBOARDcOCK FACE EIGHT OCLOCKq-THIRTYmLEVEN OCLOCKr-THIRTYlFIVE OCLOCKp-THIRTYmOUR OCLOCKp-THIRTYlNINE OCLOCKp-THIRTYlONE OCLOCKo-THIRTYlSEVEN OCLOCKq-THIRTYmIX OCLOCKo-THIRTYlTEN OCLOCKo-THIRTYmHREE OCLOCKq-THIRTYmWELVE OCLOCKr-THIRTYnO OCLOCKo-THIRTYfWISE CLOSED CIRCLE ARROWlONTOUR INTEGRALkDOWNWARDS AND UPWARDS OPEN CIRCLE ARROWSkGAPPED CIRCLE ARROWkINTEGRALkOPEN CIRCLE ARROWkRIGHT AND LEFT SEMICIRCLE ARROWSpWARDS AND LEFTWARDS OPEN CIRCLE ARROWS~ROWS WITH CIRCLED ONE OVERLAYkTOP SEMICIRCLE ARROWlRIANGLE-HEADED OPEN CIRCLE ARROWdSE UPfD BOOKhINTERSECTION WITH SERIFShLOCK WITH KEYhMAILBOX WITH LOWERED FLAGuRAISED FLAGhSUBSETn OR EQUAL TOjPERSETp OR EQUAL TOhUMBRELLAiNION WITH SERIFSy AND SMASH PRODUCTdUDf WITH LIGHTNINGlRAINlSNO",
    "WlTORNADOdWN FACEbOATcCKROACHeTAIL GLASSdONUTcFFINcINcLLISION SYMBOLdONf EQUALSgSIGNcMBINING ACUTE ACCENTw BELOWqTONE MARKp-GRAVE-ACUTEqMACRONlLMOST EQUAL TO ABOVE!BELOWlNNUITY SYMBOLmTICLOCKWISE ARROW ABOVEyRING OVERLAYlSTERISK ABOVEtBELOWkBINDU BELOWlREVEp BELOWp-MACRONmIDGE ABOVErBELOWkCANDRABINDUmRONp BELOWlEDILLAlIRCUMFLEX ACCENT# BELOWlLOCKWISE ARROW ABOVEuRING OVERLAYlOMMA ABOVEv RIGHTqBELOWmNJOINING MACRON# BELOWlYRILLIC DASIA PNEUMATAtHUNDRED MILLIONS SIGN#THOUSANDS SIGNtKAVYKAtLETTER A!BE#IG YUS!CHE!DE#JERV!EF#L#M#N#R#S$-TE!FITA!GHE!HA$RD SIGN!I#E#OTIFIED A,BIG YUS,E!KA!LITTLE YUS!MONOGRAPH UK!O#MEGA!PE!SHA$CHA#OFT SIGN!TE#SE!U#KRAINIAN IE!VE!YAT#ERU#I#U!ZE#HEtMILLIONS SIGNtPALATALIZATIONvYEROKuOKRYTIEuSILI PNEUMATAtTEN MILLIONS SIGNuHOUSAND MILLIONS SIGNuITLOy LEFT HALFzRIGHT HALFtVZMETkDELETION MARKmVANAGARI DIGIT EIGHT#FIVE$OUR#NINE#ONE#SEVEN$IX#THREE$WO#ZEROvLETTER A$KA$NA$PA$RA$U$VIvSIGN AVAGRAHAlIAERESISt BELOWt-RINGlOT ABOVEt LEFTuRIGHToBELOWt LEFTnTED ACUTE ACCENTrGRA",
    "VE ACCENTmUBLE ACUTE ACCENTrBREVEw BELOWrCIRCUMFLEX ABOVErGRAVE ACCENTrINVERTED BREVE( BELOWrLOW LINErMACRONx BELOWrOPEN MARK BELOWsVERLINErPARENTHESES ABOVEsLUS SIGN ABOVE#BELOWrRIGHTWARDS ARROW BELOWtNG BELOWrTILDEw LEFT HALFxRIGHT HALFrVERTICAL LINE ABOVE(BELOW!STROKE OVERLAYqD CIRCUMFLEX ACCENTmWN TACK BELOWoWARDS ARROWkENCLOSING CIRCLE! BACKSLASHuDIAMONDuKEYCAPuSCREENvQUAREuUPWARD POINTING TRIANGLElQUALS SIGN BELOWkFERMATAlOUR DOTS ABOVEkGLAGOLITIC LETTER AZU$BIG YUS%UKY$CHRIVI$DJERVI%OBRO$FITA%RITU$GLAGOLI$HERU$I%NITIAL IZHE%OTATED BIG YUS.SMALL YUS%ZHE$KAKO$LJUDIJE$MYSLITE$NASHI$ONU$POKOJI$RITSI$SHA&TA%LOVO%MALL YUS$TSI%VRIDO$UKU$VEDE$YATI%ERI(U&STU%O%U$ZEMLJA%HIVETElRANTHA DIGIT FIVEzOURyONEySIXyTHREEzWOyZEROsLETTER AzKAzNAzPAzVInPHEME JOINERnVE ACCENTw BELOWqTONE MARKp-ACUTE-GRAVEqMACRONmEEK DIALYTIKA TONOSqKORONISqMUSICAL PENTASEMEyTETRASEMEzRISEMEqPERISPOMENIqYPOGEGRAMMENIkHOMOTHETIC ABOVEmOK ABOVEmRNkINFINITYmVERTED BREVEy BELOWvIDGE BELOWtDOUBLE ARCH ABOVE(BELOWlS BELOWkKA",
    "TAKANA-HIRAGANA SEMI-VOICED SOUND MARK$VOICED SOUND MARKmVYKA ABOVE LEFTxRIGHTkLATIN LETTER SMALL CAPITAL G:L:M:N:RqSMALL LETTER A& WITH DIAERESIS&E&LPHA&O&V%B&ETA%C& CEDILLA%D%E&SH&TH%F&LATTENED OPEN A ABOVE%G%H%I&NSULAR D:G:R:T%K%L& WITH DOUBLE MIDDLE TILDE&ONG S%M%N%O& WITH DIAERESIS.LIGHT CENTRALIZATION STROKE%P%R& BELOW(ROTUNDA%S&CHWA%T&URNED W BELOW%U& WITH DIAERESIS.LIGHT CENTRALIZATION STROKE%V%W& BELOW%X%ZlEFT ANGLE ABOVEvBELOWqRROW ABOVEvBELOWuHEAD ABOVEzBELOWpHALF RING ABOVEzBELOWrRPOON ABOVEpPARENTHESIS ABOVE LEFT#BELOW LEFTpRIGHT ARROW ABOVE#BELOWpTACK BELOWoWARDS ARROW OVERLAYuHARPOON WITH BARB DOWNWARDSlIGATURE LEFT HALF$ BELOWtRIGHT HALF% BELOWnHT CENTRALIZATION STROKE BELOWlONG DOUBLE SOLIDUS OVERLAYpSOLIDUS OVERLAYqTROKE OVERLAYpVERTICAL LINE OVERLAYmW LINEkMACRONq BELOWrLEFT HALF! BELOWrRIGHT HALF# BELOWq-ACUTErBREVErGRAVElINUS SIGN BELOWkNOT TILDE ABOVElUMBER SIGN ABOVEkOGONEKq ABOVElLD PERMIC LETTER AN$DOI$NENOE$SII$ZATAlPEN MARK BELOWlVERLINEkPALATALIZED HOOK BELO",
    "WmRENTHESES ABOVEwBELOWwOVERLAYlLUS SIGN ABOVEuBELOWkRETROFLEX HOOK BELOWmVERSE SOLIDUS OVERLAYrD COMMA ABOVElIGHT ARROW ABOVEwBELOWvHEAD ABOVE#ND DOWN ARROWHEAD BELOW&UP ARROWHEAD BELOW!BELOWqHALF RING ABOVE!BELOWsRPOON ABOVEqPARENTHESIS ABOVE RIGHT$BELOW RIGHTqTACK BELOWpWARDS HARPOON WITH BARB DOWNWARDSmNG ABOVEpBELOWpOVERLAYkSEAGULL BELOWlHORT SOLIDUS OVERLAYrTROKE OVERLAYqVERTICAL LINE OVERLAYlNAKE BELOWlQUARE BELOWsRACKETS ABOVElTRONG CENTRALIZATION STROKE BELOWlUSPENSION MARKkTHREE DOTS ABOVElILDEp BELOWqLEFT HALF BELOWqOVERLAYqRIGHT HALF BELOWlRIPLE ACUTE ACCENTrDOTrUNDERDOTlURNED COMMA ABOVEkUP TACK ABOVEsBELOWmWARDS ARROW BELOWlR ABOVElS ABOVEkVERTICAL LINE ABOVEyBELOWtTILDEkWIDE BRIDGE ABOVEpINVERTED BRIDGE BELOWmGGLY LINE BELOWkX ABOVEmBELOWl-X BELOWkZIGZAG ABOVErBELOWdETdMAeERCIAL ATlMINUS SIGNdPASSeLEMENTeOSITION SYMBOLeRESSIONcNFETTI BALLeOUNDED FACEeUSED FACEdGRUENT WITH DOT ABOVEdICAL TAPERdJUNCTIONdSTRUCTION SIGNnWORKERdTAINS AS MEMBERmNORMAL SUBGROUP# OR EQUAL TOjWIT",
    "H LONG HORIZONTAL STROKEoOVERBARoVERTICAL BAR AT END OF HORIZONTAL STROKEeINUOUS UNDERLINE SYMBOLeOUR INTEGRALeROL KNOBSiSEQUENCE INTRODUCERdVENIENCE STOREcOKED RICEeIEfNGcPTIC CAPITAL LETTER AKHMIMIC KHEIxLFAwBOHAIRIC KHEIwCROSSED SHEIyYPTOGRAMMIC EIE.GANGIA.NI.SHEIwDALDAxEIxIALECT-P ALEF)HORI)KAPA)NIwEIEwFEIxIwGAMMAyNGIAwHATExORIwIAUDAwKAPAxHEIyIxSIwL-SHAPED HAxAULAwMIwNIwOxLD COPTIC AIN*DJA*ESH*GANGIA*HA,T+EI+ORI*OOU*SHEI,IMA!NUBIAN NGI+YI*SHIMA*WAUxOUwPIxSIwROwSAMPIxHEIyIMAxIMAxOUwTAUxHETHEwUAwVIDAwZATAiOMBINING NI ABOVErSPIRITUS ASPER!LENIShEPACT DIGIT EIGHTtFIVEuOURtNINEtONEtSEVENuIXtTHREEuWOnNUMBER EIGHT HUNDREDzYuFIFTYwVE HUNDREDvORTYwUR HUNDREDuNINE HUNDREDyTYuONE HUNDREDuSEVEN HUNDREDzTYvIX HUNDREDxTYuTENvHIRTYwREE HUNDREDvWENTYwO HUNDREDnTHOUSANDS MARKhFRACTION ONE HALFiULL STOPhMORPHOLOGICAL DIVIDERhOLD NUBIAN DIRECT QUESTION MARKsFULL STOPsINDIRECT QUESTION MARKsVERSE DIVIDERhSMALL LETTER AKHMIMIC KHEIvLFAuBOHAIRIC KHEIuCROSSED SHEIwYPTOGRAMMIC EIE+GANGIA+NI+SHEIuDALDAvEIv",
    "IALECT-P ALEF&HORI&KAPA&NIuEIEuFEIvIuGAMMAwNGIAuHATEvORIuIAUDAuKAPAvHEIwIvSIuL-SHAPED HAvAULAuMIuNIuOvLD COPTIC AIN(DJA(ESH(GANGIA(HA*T)EI)ORI(OOU(SHEI*IMAyNUBIAN NGI)YI(SHIMA(WAUvOUuPIvSIuROuSAMPIvHEIwIMAvIMAvOUuTAUvHETHEuUAuVIDAuZATAiYMBOL KAIpHI ROoMI ROoPI ROoSHIMA SIMApTAUROSoTAU ROdYLEFT SYMBOLeRIGHT SIGNcRALdNISH VERSE DIVIDERdRESPONDS TOcUCH AND LAMPdNTERBOREhSINKfING ROD TENS DIGIT EIGHTyFIVEzOURyNINEyONEySEVENzIXyTHREEzWOnUNIT DIGIT EIGHTyFIVEzOURyNINEyONEySEVENzIXyTHREEzWOdPLE WITH HEARTcWd FACEbRcABcEDIT CARDdSCENT MOONcICKETh BAT AND BALLcOCODILEdISSANTdSS MARKgOF JERUSALEMjLORRAINEgPATTY WITH LEFT CROSSBARrRIGHT CROSSBARhOMMEEm WITH HALF-CIRCLE BELOWfED FLAGSiNEGATIVE SQUARED LATIN CAPITAL LETTER PiSWORDSfING LANESdWNcUTCHdZEIRO SIGNcYING CAT FACEhFACEdSTAL BALLbSIbUBE ROOTcCUMBERcNEIFORM NUMERIC SIGN EIGHT ASH%DISH%GESH2%SHAR2%U& VARIANT FORM%VARIANT FORM USSU^3yLAMITE FIFTY)ORTY(ONE THIRD(TWO THIRDSxFIVE ASH( TENU$BAN2) VARIANT FORM%URU$DISH$GESH2)U$SHAR2)U%IXTHS DISH$U",
    "% VARIANT FORMyOUR ASH( TENU$BAN2) VARIANT FORM%URU$DISH$GESH2)U$SHAR2)U$U% VARIANT FORM$VARIANT FORM LIMMU^ A_B^4xNIGIDAESH%MINzNE ASH$DISH$GESH2$SHAR2$U% VARIANT FORM$VARIANT FORM ILIMMU_ A_3_4xOLD ASSYRIAN ONE QUARTER=SIXTHyNE BAN2$URU#EIGHTH ASH$SHE3#GESH2(U#HALF GUR#QUARTER ASH,GUR#SHARU#THIRD DISH*VARIANT FORM AxSEVEN ASH%DISH%GESH2%SHAR2%U& VARIANT FORM%VARIANT FORM IMIN A_B^3yHAR2 TIMES GAL PLUS DISH[MINyIX ASH& TENU#DISH#GESH2#SHAR2#U$ VARIANT FORM#VARIANT FORM ASH9xTHREE ASH) TENU%BAN2&URU* VARIANT FORM%DISH%GESH2*U%SHAR2+ VARIANT FORM*U+ VARIANT FORM%VARIANT FORM ESH16]21yWO ASH& TENU#BAN2$URU#ESHE3#GESH2(U#SHAR2(U#THIRDS DISH+VARIANT FORM AkPUNCTUATION SIGN DIAGONAL COLON.QUADCOLON.TRICOLON#OLD ASSYRIAN WORD DIVIDER#VERTICAL COLONkSIGN Aq TIMES AxBADxGAN2 TENUxHAxIGIxLAGAR GUNUxMUSHxSAGq2qBr GUNUsTIMES ASH2yDUN3 GUNUyGAL!N2 TENUyHAyIGI GUNUzMINyLAGAByNUN# TENUySHESH!U2yU PLUS U PLUS Ur2s TIMES AzBALAGzGAN2 TENUzME PLUS ENzSHA3zTAK4qDr TIMES ESH2qKr TIMES ERIN2ySHITA PLUS GI",
    "SHqLr TIMES ALyDIM2yGISHyHAyKAD3zIySHEyUSHrANrEPHqMARt TIMES KUG!SHEqNr OVER ANsPLUS NAGA OPPOSING AN PLUS NAGA$SQUAREDsTHREE TIMESrSHEqPINqRADt TIMES KURrKABqSAL2rHs KABA TENUtOVER ASH OVER ASH. CROSSING ASH OVER ASH OVER ASH$TUG2 OVER TUG2 TUG2 OVER TUG2 PAPtZIDA TENUs2sGABpBArDs TIMES DISH TENUrG3rHAR2v TIMES AB2$NI$ZArLs OVER BALsAGrRsA2qIr TIMES AyGARyIGI GUNUqUr CROSSING BUsOVER BU AB!TIMES NA2!UNrLUGu OVER BULUGrRs2pDAr TIMES TAK4rGs KISIM5 TIMES A PLUS MASH*MAR)BALAG*I)GA+ PLUS MASH*I+R2*UD)HA)IR+ PLUS LU)KAK)LA*U+ PLUS MASH2+M)NE)PAP PLUS PAP)SI)TAK4)U2 PLUS GIR2=MASH*SHtTIMES KURs3rMrRsA3t4qIrBrMs TIMES IGIzSHEzU U Us2t TIMES UDrNs KASKAL U GUNU DISHrSHt PLUS SHUqUr GUNUsOVER DUsSHESHIGrBs TIMES ESH2zSHEs2rGs TIMES ANSHE!SH$ AT LEFTzDIN!UNzERIN2zGA!I#R2 GUNU#SHzHA!IzIGI GUNUzKASKAL!UR#SHU2( PLUS KASKALzLAK-020#M$ TIMES KUR!UH PLUS GISHzMASH!ES!IzNIzPIzSHE!I GUNUsUDrHrNs3t GUNUy GUNUs4rR2pEq OVER E NUN OVER NUNrTIMES PAPq2r TIMES A PLUS HA PLUS DAyGARyKURyMIyPAPySALzHEyUqDINqG",
    "IRqLqNr CROSSING ENsOPPOSING ENsSQUAREDsTIMES GAN2$ TENUyMEqRENrIN2u XqSH2t CROSSING ESH2qZENt SHESHIG TIMES ASH+HI+IGI GUNU+LA.L+ME.S+SUuTIMES A# PLUS LAL. TIMES LAL#N!BAD!DUN3 GUNU, GUNU!GUD!HA$ GUNU!IGI GUNU!KASKAL) SQUARED#U3!LA$L TIMES LAL#I#U!SHE#U!U2#DpGAr GUNUr2s OVER GA2tTIMES A PLUS DA PLUS HA)HA)IGI!B2 TENU PLUS TAB!N# PLUS KAK PLUS A!SH$2% PLUS GALzBAD#HAR2#R PLUS RA!UR$ PLUS RAzDA!I#M GUNU%TIMES SHE!UB#G TIMES IGI GUNU,KASKALzEL# PLUS LA!N# TIMES GAN2 TENU!RENzGA#N2 TENU#R$ PLUS DI+NE!I#4$ PLUS A#R2 PLUS SUzHA PLUS A*LU PLUS ESH2#L$ PLUS LA!I PLUS LI!UB2zIGI GUNU!SH PLUS HU PLUS ASHzKAK#SKAL!ID$ PLUS LAL!U3 PLUS AN#SHU2 PLUS KASKALzLA#M$ TIMES KUR!UHzME PLUS EN!I!USHzNE# PLUS E2*GI!UN$ OVER NUNzPAzSAL#R!HE$ PLUS TUR#ID$M!UMzTAK4zU!D# PLUS DUzZIZ2rBAt CROSSING GABAuROTATED NINETY DEGREESrDs OVER GAD GAR OVER GARrLs GAD OVER GAD GAR OVER GARsAMrMrNs2t CROSSING GAN2uOVER GAN2uTENUrRs3rSHANqE22rSHTINw TIMES KUR%UqIr CROSSING GIsTIMES EyUr4s CROSSING GI4tOVER GI4rDIMrGrR2t GUNU",
    "s3t TIMES A PLUS IGI!GAN2 TENU!IGI!LU PLUS IGI!PArSALsHt CROSSING GISHuTENUvIMES BAD!GISH CROSSING GISH!TAK4qUr CROSSING GUr2s GUNUtTIMES IGI GUNUzKAK$ TIMES IGI GUNUzNUNzSAL PLUS TUG2rDs OVER GUD LUGALtPLUS GISH TIMES TAK4tTIMES A PLUS KURzKURrLrMs TIMES SHErRs7sUNtSHpHAr GUNUsTENUw GUNUrLqIr TIMES ASH# OVER HI TIMES ASH#2yBADyDISHyGADyKINyNUNySHEyUqUrB2t TIMES AN!HAL!KASKAL!LISH!UDrL2rSHpIq AqBqDIMt OVER IDIM BUR&SQUAREDqGrIs DIBtGUNUtOVER IGI SHIR OVER SHIR UD OVER UDtRIqLr TIMES GAN2 TENUr2qMr CROSSING IMsOPPOSING IMsSQUAREDsTIMES TAK4rINqNqRqSHpKAr TIMES AzD! PLUS KU3zNSHEzSH2#3yBAD!LAG!RzIzUyERIN2zSH2yGA!L!N2 TENU!R# PLUS SHA3 PLUS AzI!R2!SH$ CROSSING GISH%PLUS SARzU!D!R7yHI TIMES ASH2yIGIzMyKA!KzI!DyLIzU!MyME! PLUS DU)GI)TEzI! PLUS NUNUZyNEzUNyPAzIyRUySA!RzHA!E!ID!U#LzIGzUHURyTARzUyUz U Uz2zDzMUM TIMES PAzR!2zSHyZIr2s CROSSING KA2rBrD2s3s4s5t OVER KAD5rKs TIMES IGI GUNUrLs CROSSING KALtTIMES BADrM2s4rP ELAMITErSKALv LAGAB TIMES U OVER LAGAB TIMES UwOVER KASKAL LAGAB TIMES U OVER",
    " LAGAB TIMES UqESH2qIr TIMES BADyUzDrDrNrSALsHsIM5v OVER KISIM5qUr OVER HI TIMES ASH2 KU OVER HI TIMES ASH2r3r4s VARIANT FORMr7rLs GUNUrNrRs OPPOSING KURrSHU2qWU318pLArGABu SQUAREDvTIMES A$ PLUS DA PLUS HA+GAR+LAL$L$N$SH ZIDA TENU#BAD$I#DAR#EN#GA%R$I$UD& PLUS GUD#HA%L$I TIMES NUN#IGI GUNU$M% PLUS HA,LU#KI%N$U3%L& PLUS HI PLUS A#LAGAB$ISH$U%L#ME% PLUS EN$USH#NE#SHE PLUS SUM%ITA PLUS GISH PLUS ERIN2@TENU%U2( PLUS SHU2$UM#TAG%K4$E PLUS A PLUS SU PLUS NA#U$ PLUS A+U PLUS U$2 PLUS ASH$D$SH#ZU OVER ZUtRu GUNUz OVER LAGAR GUNU SHEvTIMES SHE& PLUS SUMrHSHUrK-003u21v5u30u50v1u62u79 OVER LAK-079 GUNUu80v1 OVER LAK-081u92t130u42t210v9u20v5v8u38u65v6t343v7v8u83v4u90t441v9w TIMES GU%IGI%PAP PLUS LU3;PAP PLUS LU3%U2 PLUS BAu50v7u70u83u90v2v3v5t550t608u17w TIMES ASH%BAD%DUN3 GUNU GUNU%KU3%LA%TAR&E%U2&D&RUDAu36u48w TIMES DUB%GA%IGI) GUNU%NI%PAP PLUS PAP PLUS LU3%SHESH PLUS KI%UD&RUDAt724u49rLs TIMES LALrMs TIMES KUR$ PLUS RUqIrLrMMU2rSHqUr TIMES BADr2s CROSSING LU2tGUNU TIMES ASHtOPPOSING LU2tSHESHIG!",
    " TIMES BADuQUAREDtTENUuIMES ALzBADzDISHzESH2% PLUS LAL&TENUzGAN2 TENUzHAL!I TIMES BADzIMzKAD2$3% PLUS ASH!IzLA PLUS ASH#GABzME PLUS ENzNE!UzPAP$ PLUS PAP PLUS LU3zSHU!I PLUS ASH#K2 PLUS BUzTAK4!UG2r3rGALu OPPOSING LUGALwVER LUGALvSHESHIGrHrLrMs OVER LUM# GAR OVER GARpMAr GUNUsTIMES TAK4r2rHrRrSHt2qErSsHqIr PLUS ZA7rNqUr OVER MUrGs GUNUrNSUBrRGU2rSHt CROSSING MUSHuOVER MUSH% TIMES A PLUS NA.GA.KAKuTIMES A!KUR!ZAt3u GUNUvTIMES A$ PLUS DI#DI#ZApNAr2r4rGAt INVERTEDuOPPOSING NAGAuTIMES SHU TENUtRrMs NUTILLUs2qEr SHESHIGsTIMES AyUDqIr TIMES Er2rMs TIMES GAN2 TENU#R PLUS GAN2 TENUrNs9sDA2v TIMES AN%SH( PLUS ASH$BAL$DIM GUNU$GI&SH%UD&L$HI$KESH2$LAK-050$MASH%E PLUS GAN2 TENU$NE%UN$PAP PLUS PAP$SHE( PLUS A AN;SH= PLUS ASH$U% PLUS U%2 PLUS ASH%RUDA%SHrSAGqUr11t OVER NU11 BUR OVER BURuROTATED NINETY DEGREESuTENUrNs CROSSING NUN( LAGAR OVER LAGARtLAGAR TIMES GAR(MASH(SAL+ OVER NUN LAGAR TIMES SAL(USHtOVER NUNtTENUsUZu AB2 TIMES ASHGAB(BI(DUG(GUD(IGI GUNU(KAD3(LA(NE(SILA3(U2vKISIM5 TIMES BI. UpPArDr",
    "NrPqESH2u ASTERISKqIr CROSSING PIsTIMES AzByBIzUyEyIzByUz2rR2sIGu OPPOSING PIRIGvTIMES KAL#UD#ZApRArBqIqUpSArGs GUNUx TIMES HAtNUTILLUtOVER SAGtTIMES AzDU#BzENzHAzIGI GUNUzKAK!URzLUMzMIzNUNzSAL!HE AT LEFT#IDzTAB#K4zU2!B!M!R!SHrLs LAGAB TIMES ASH2rNGA2rRqHAs3t TIMES A!BAD!GISH!NE!SHU2!TUR!U# PLUS As6t TENUsB6sR2rEs HUtOVER SHE# GAD OVER GAD GAR OVER GAR$TAB OVER TAB GAR OVER GARtPLUS HUB2yNAM2ySARsG9sNsSHu2uLAMrIDt TIMES A!IMsMt TIMES A!BAL#ULUG!DIN!GAR!IGI% GUNU!KUSHU2!LUL!MUG!SALsNIGsRt OVER SHIR BUR OVER BURuTENUsTArUs OVER INVERTED SHUs2t PLUS DUG TIMES NIzE2 TIMES ANsBURqIr GUNUsTIMES TAK4rGs4t OVER SIG4 SHU2rK2rLA3qUr OVER SUrDs2rHURrMsASHrRs9pTAr ASTERISKsGUNUsTIMES HIyMIrBs OVER TAB NI OVER NI DISH OVER DISHtSQUAREDrGs TIMES BIzGUDzSHE#UzTUG2zUDrK4t PLUS SAGrRqEr GUNUqIr TENUr2rLrRs OVER TIR# GAD OVER GAD GAR OVER GARtTIMES TAK4qUrG2rKrMs TIMES GAN2 TENUzTHREE DISHrRs OVER TUR ZA OVER ZApUq GUDrOVER U PA OVER PA GAR OVER GARySUR OVER SURyU REVERSED OVER U REVERSEDrUs Uq2qBqDr GU",
    "NUsKUSHU2sSHESHIGz TIMES BADsTIMES BADyMIyU PLUS U PLUS U< GUNUrUGqMr TIMES LAGAByME! PLUS DAySHA3yUrBINrUMt TIMES KASKAL!PAqNr GUNUqRr CROSSING URsSHESHIGr2s INVERTEDtTIMES A PLUS HA)NA!LzHAzNUNzU2# PLUS ASH*BI!Dr4rIs3rUs TIMES A!SHGABzBARzDARA3!UNzGA#L#N2 TENU#R!UzHAzIGI!M!SHzKIzLAK-668!U3#MzMINzPAzSHE!IG4zTUzU PLUS GUD!D!RUDAsDAu TIMES UqSHs TIMES AzKU#RzTAK4s2sUMXsXqTUKIqZ3s TIMES KASKALrUpZAr SQUARED TIMES KURsTENUr7rGrMXqE2qIr OVER ZIr3rBs KABA TENUrGrZ2qUr OVER ZU PLUS SARr5s TIMES AzTHREE DISH TENUrBURrMcP ON BLACK SQUAREeWITH STRAWdCAKEdIDOcRLING STONEeY BRACKET EXTENSIONgLOGICAL ANDoORiOPdRENCY EXCHANGEjSIGNeY AND RICEdVED STEM PARAGRAPH SIGN ORNAMENTcSTARDeOMScT OF MEATbYCLONEcLINDRICITYcPRIOT SYLLABLE ArErIrJAsOrKAsEsIsOsUrLAsEsIsOsUrMAsEsIsOsUrNAsEsIsOsUrOrPAsEsIsOsUrRAsEsIsOsUrSAsEsIsOsUrTAsEsIsOsUrUrWAsEsIsOrXAsErZAsOeO-MINOAN SIGN CM001w2w4w5w6w7w8w9v10w1w2xBw3w5w7w9v21w3w4w5w6w7w8w9v30w3w4w5w6w7w8w9v40w1w4w6w7w9v50w1w2w3w4w5w6w8w9v60w1w2w3w4w6w7w8w9v70w1w2w3w4w5xBw6w8w",
    "9v80w1w2w3w4w5w6w7w8w9v90w1w2w4w5w6w7w8w9u100w1w2w3w4w5w7w8w9v10w2w4u301w2cRILLIC CAPITAL LETTER Az WITH BREVE(DIAERESISzBKHASIAN CHE: WITH DESCENDER+DZE+HAzLEUT KAyBARRED O) WITH DIAERESIS!SHKIR KAzEzIG YUS!NOCULAR OzLENDED YUSzROAD OMEGAzYELORUSSIAN-UKRAINIAN IyCCHEzHE# WITH DESCENDER+IAERESIS*VERTICAL STROKEzLOSED LITTLE YUSzROSSED OyDCHEzEzJE#RVzOUBLE MONOCULAR O(OzWEzZE#LO!HE!WE!ZE#HEyEz WITH DIAERESISzFzL! WITH DESCENDER)HOOK)MIDDLE HOOK)TAILzM! WITH TAILzN! WITH DESCENDER)HOOK)LEFT HOOK)MIDDLE HOOK)TAILzR! WITH TICKzS! WITH DESCENDERyFITAyGHE# WITH DESCENDER*MIDDLE HOOK*STROKE< AND HOOK*UPTURNzJEyHA! WITH DESCENDER)HOOK)STROKE!RD SIGNzWEyIz WITH DIAERESIS(GRAVE(MACRONzE! WITH BREVE)GRAVEzO!TA#IFIED A*BIG YUS*CLOSED LITTLE YUS*E*LITTLE YUS*YATzZHITSA( WITH DOUBLE GRAVE ACCENTyJEyKA! WITH DESCENDER)HOOK)STROKE)VERTICAL STROKEzHAKASSIAN CHEzJEzOMI DE&JE&ZJE%LJE%NJE%SJE%TJE%ZJE!PPAzSIyLHAzITTLE YUSzJEyMONOCULAR O$GRAPH UKyNEUTRAL YERzJEyOz WITH DIAERESISzMEGA% WITH TITLOzTyPE! WITH ",
    "DESCENDER)MIDDLE HOOKzSIyQAyREVERSED DZE*TSE*YU*ZEzHAzOUND OMEGAySCHWA% WITH DIAERESISzEMISOFT SIGNzHA!CHA!HA$ WITH DESCENDER!ORT I( WITH TAIL&U!WEzOFT DE%EL&M%SIGNzTRAIGHT U+ WITH STROKEyTCHEzE! WITH DESCENDER)MIDDLE HOOKzSE!HE!SE!WEzWEyUz WITH DIAERESIS)OUBLE ACUTE(MACRONzK!RAINIAN IEyVEyWEyYA!E!TzERU$ WITH BACK YER+DIAERESISzIzNzUyZE! WITH DESCENDER*IAERESIS!MLYAzHE# WITH BREVE*DESCENDER+IAERESIS!WEsIGATURE A IE!EN GHE!TE TSEjKAVYKAjLETTER MULTIOCULAR OqPALOCHKAqSMALL CAPITAL ELjPAYEROKjSMALL LETTER Ax WITH BREVE%DIAERESISxBKHASIAN CHE, WITH DESCENDER)DZE)HAxLEUT KAwBARRED O& WITH DIAERESISySHKIR KAxExIG YUSyNOCULAR OxLENDED YUSxROAD OMEGAxYELORUSSIAN-UKRAINIAN IwCCHExHEz WITH DESCENDER)IAERESIS(VERTICAL STROKExLOSED LITTLE YUSxROSSED OwDCHExExJEzRVxOUBLE MONOCULAR O%OxWExZEzLOyHEyWEyZEzHEwEx WITH DIAERESISxFxLy WITH DESCENDER&HOOK&MIDDLE HOOK&TAILxMy WITH TAILxNy WITH DESCENDER&HOOK&LEFT HOOK&MIDDLE HOOK&TAILxRy WITH TICKxSy WITH DESCENDERwFITAwGHEz WITH DESCENDER(MIDDLE HOOK(STROK",
    "E: AND HOOK(UPTURNxJEwHAy WITH DESCENDER&HOOK&STROKEyRD SIGNxWEwIx WITH DIAERESIS%GRAVE%MACRONxEy WITH BREVE&GRAVExOyTAzIFIED A(BIG YUS(CLOSED LITTLE YUS(E(LITTLE YUS(YATxZHITSA% WITH DOUBLE GRAVE ACCENTwJEwKAy WITH DESCENDER&HOOK&STROKE&VERTICAL STROKExHAKASSIAN CHExJExOMI DE$JE$ZJE#LJE#NJE#SJE#TJE#ZJEyPPAxSIwLHAxITTLE YUSxJExONG-LEGGED DEwMONOCULAR O!GRAPH UKwNARROW OxEUTRAL YERxJEwOx WITH DIAERESISxMEGA# WITH TITLOxTwPALOCHKAxEy WITH DESCENDER&MIDDLE HOOKxSIwQAwREVERSED DZE(TSE(YU(ZExHAxOUND OMEGA#ED VEwSCHWA# WITH DIAERESISxEMISOFT SIGNxHAyCHAyHA! WITH DESCENDERyORT I% WITH TAIL$UyWExOFT DE#EL$M#SIGNxTRAIGHT U) WITH STROKEwTALL HARD SIGN#TE#YATxCHExEy WITH DESCENDER&MIDDLE HOOKxHREE-LEGGED TExSEyHEySEyWExWEwUx WITH DIAERESIS&OUBLE ACUTE%MACRONxKyRAINIAN IExNBLENDED UKwVEwWExIDE ESwYAyEyTxERU! WITH BACK YER)DIAERESISxIxNxUwZEy WITH DESCENDER(IAERESISyMLYAxHEz WITH BREVE(DESCENDER)IAERESISyWEqIGATURE A IEyEN GHEyTE TSEjTHOUSANDS SIGNaDAGGERg KNIFEhWITH LEFT GUARDmRIGHT GUARDcLET SYMB",
    "OLcNCERdGOcRK SHADEgUNGLASSEScSH SYMBOLfWITH LEFT UPTURNeED LOW LINEhOVERLINEhTRIANGLE-HEADED RIGHTWARDS ARROWcTA LINK ESCAPEbC1c2c3c4cSbEAF PERSONcCIDUOUS TREEeMAL EXPONENT SYMBOLiSEPARATOR KEY SYMBOLdREASE FONT SIZE SYMBOLcERcGREE CELSIUShFAHRENHEIThSIGNcLdETEdIVERY TRUCKdTA EQUAL TOcNTISTRY SYMBOL LIGHT DOWN AND HORIZONTAL? WITH CIRCLE|TRIANGLE|WAVExUP AND HORIZONTAL= WITH CIRCLE^TRIANGLE^WAVExVERTICAL AND BOTTOM LEFT@RIGHT.TOP LEFT=RIGHT.WAVE)WITH CIRCLE:TRIANGLEcPARTMENT STOREcRELICT HOUSE BUILDINGcSCENDING NODEdERET CAPITAL LETTER AYxBEExCHEExDEExEFyLyMyNzGyRySzHyTHyWxGAYxHxJEExKAYxLONG A%H$E$I$O%OxOIyWxPEExSHORT A&H%E%I%O&OxTEEyHEExVEExWUxYEExZEEyHEEiSMALL LETTER AYvBEEvCHEEvDEEvEFwLwMwNxGwRwSxHwTHwWvGAYvHvJEEvKAYvLONG A#H!E!I!O#OvOIwWvPEEvSHORT A$H#E#I#O$OvTEEwHEEvVEEvWUvYEEvZEEwHEEfTg ISLANDdKTOP COMPUTERiWINDOWcVANAGARI ABBREVIATION SIGNmCUTE ACCENTlCARETlDANDAmIGIT EIGHTrFIVEsOURrNINErONErSEVENsIXrTHREEsWOrZEROmOUBLE DANDAlGAP FILLERmRAVE ACCENTlHEADSTROKElJAIN OMlLETTER AtA",
    "tItUtWtYsBAtBAtHAsCAuNDRA AzEzOtHAsDAtDAuDAvHAuHAtHAsEsFAsGAtGAtHAuHAtLOTTAL STOPsHAtEAVY YAsItIsJAtHAtJAsKAtHAuHAsLAtLAuLAsMAuRWARI DDAsNAtGAtNAuNAtYAsOtEtOEsPAtHAsQAsRAtHAtRAsSAtHAuORT AyEyOtSAsTAtHAtTAuHAsUtEtUuEsVAtOCALIC L#L!R#RsYAtYAsZAtHAlOMlSIGN ANUSVARArVAGRAHAqCANDRABINDU# AVAGRAHA$THREE%WO$VIRAMAqDOUBLE CANDRABINDU VIRAMAqHIGH SPACING DOTqINVERTED CANDRABINDUqNUKTAqPUSHPIKAqSIDDHAMrPACING CANDRABINDUqVIRAMAsSARGAmTRESS SIGN ANUDATTAxUDATTAlVOWEL SIGN AAxIxUxWxYwCANDRA E%LONG E%OwEwIxIwOxExOEwPRISHTHAMATRA EwSHORT E$OwUxExUyEwVOCALIC L(L&R(RdICE CONTROL FOURpONEpSTRINGpTHREEqWObIAERESISdMETER SIGNeOND OPERATORiSHAPE WITH A DOT INSIDEiTARGETiWITH BOTTOM HALF BLACKnLEFT HALF BLACKnRIGHT HALF BLACKnTOP HALF BLACKcE FACE-1j2j3j4j5j6dSEL LOCOMOTIVEcFFERENCE BETWEENcGIT EIGHTl COMMAmFULL STOPgFIVEk COMMAlFULL STOPhOURk COMMAlFULL STOPgNINEk COMMAlFULL STOPgONEj COMMAkFULL STOPgSEVENl COMMAmFULL STOPhIXj COMMAkFULL STOPgTHREEl COMMAmFULL STOPhWOj COMMAkFULL STOPgZEROk COMMAlFULL STO",
    "PdRAM FOR EARTHqLY HEAVENuUMANlGREATER YANGuINlHEAVENLY EARTHmUMAN EARTHlLESSER YANGtINcMENSION ORIGINcNGBAT CIRCLED SANS-SERIF DIGIT EIGHT*FIVE+OUR*NINE*ONE*SEVEN+IX*THREE+WO*ZERO#NUMBER TENiNEGATIVE CIRCLED DIGIT EIGHT(FIVE)OUR(NINE(ONE(SEVEN)IX(THREE)WOzNUMBER TENzSANS-SERIF DIGIT EIGHT?FIVE@OUR?NINE?ONE?SEVEN@IX?THREE@WO?ZERO.NUMBER TENcRECT CURRENT SYMBOL FORM TWOhHITcSABLED CARePPOINTED BUT RELIEVED FACEnFACEdCONTINUOUS UNDERLINE SYMBOLdGUISED FACEcTTO MARKcVES AKURU DIGIT EIGHTsFIVEtOURsNINEsONEsSEVENtIXsTHREEtWOsZEROnOUBLE DANDAmEND OF TEXT MARKmGAP FILLERmINITIAL RAmLETTER AuAtBAuHAtCAuHAtDAuDAvHAuHAtEtGAuHAtHAtIuItJAtKAuHAtLAuLAtMAtNAuGAuNAuYAtOtPAuHAtRAtSAuHAuSAtTAuHAuTAtUuUtVAtYAuYAtZAmMEDIAL RAtYAmPREFIXED NASAL SIGNmSIGN ANUSVARArCANDRABINDUrHALANTArNUKTAmVIRAMAnOWEL SIGN AAyIxExIyIxOxUyUdIDESeNG MASKeSION SIGNkLASHjTIMESdORCE SYMBOLcYA LAMPcZZY FACEgSYMBOLbLEbNA DOUBLE HELIXbO NOT LITTER SYMBOLcCUMENTi WITH PICTUREoTEXTs AND PICTUREcDOcES NOT CONTAIN AS MEMBERuNORMAL SUB",
    "GROUP, OR EQUALjDIVIDEp WITH REVERSED NEGATION SLASHjFORCEjPRECEDEq OR EQUALlOVEjSUCCEEDq OR EQUALcGd FACEdRA ABBREVIATION SIGNgLETTER AoAoIoUnBAoHAnCAoHAnDAoDApHAoHAnEnGAoHAnHAnIoInJAoHAnKAoHAnLAnMAnNAoGAoNAoYAnOnPAoHAnRAoRAnSAoHAoSAnTAoHAoTApHAnUoUnVAnYAgSIGN ANUSVARAlNUKTAlVIRAMAnSARGAgVOWEL SIGN AAsIsUrErIsIrOrUsUrVOCALIC R!RcLLAR SIGNdPHINcMINO TILE HORIZONTAL BACKw-00-00#1#2#3#4#5#6y1-00#1#2#3#4#5#6y2-00#1#2#3#4#5#6y3-00#1#2#3#4#5#6y4-00#1#2#3#4#5#6y5-00#1#2#3#4#5#6y6-00#1#2#3#4#5#6mVERTICAL BACKu-00-00z1z2z3z4z5z6w1-00z1z2z3z4z5z6w2-00z1z2z3z4z5z6w3-00z1z2z3z4z5z6w4-00z1z2z3z4z5z6w5-00z1z2z3z4z5z6w6-00z1z2z3z4z5z6cNG SIGNcORcT ABOVEeMINUSeOPERATORePLUSdTED CIRCLEiROSShFENCEhLINE FACEhOBELOShRIGHT-POINTING ANGLEhSOLIDUSiQUAREhTRANSPOSITION MARKERcUBLE ACUTE ACCENThCIRCLED DIGIT EIGHTvFIVEwOURvNINEvONEvSEVENwIXvTHREEwWOpNUMBER TENiOLON EQUALiURLY LOOPhDAGGERiOWN TACKhEXCLAMATION MARKhHIGH-REVERSED-9 QUOTATION MARKiYPHENhINTEGRALlRSECTIONhLEFT ARC GREATER-THAN BRACKETiOGICAL ANDpOR",
    "jW LINEk-9 QUOTATION MARKlREVERSED-9 QUOTATION MARKhNESTED GREATER-THANoLESS-THANx WITH UNDERBARhOBLIQUE HYPHENhPLUSiRECEDESjIMEm QUOTATION MARKhQUESTION MARKhRIGHT ARC LESS-THAN BRACKEThSOLIDUS OPERATORiQUARE INTERSECTIONoUNIONiTACKED COMMAjROKE NOT SIGNiUBSETjCCEEDSjPERSETjSPENSION MARKhUNIONiP TACKhVERTICAL BARt DOUBLE LEFT TURNSTILE#RIGHT TURNSTILEuLEFT TURNSTILEqLINEhWAVY OVERLINEg-ENDED MULTIMAPhLINE EQUAL TO OR GREATER-THANyLESS-THANmSLANTED EQUAL TO OR GREATER-THAN)LESS-THANuGREATER-THAN OR EQUAL TOuLESS-THAN OR EQUAL TOhSTRUCK CAPITAL CwGAMMAwHwNwPxIwQwRwZoITALIC CAPITAL DvSMALL D#E#I#JoN-ARY SUMMATIONoSMALL GAMMAuPIgD FEMALE SIGNiMALE SIGNiSYMBOLdGHNUTcVE OF PEACEcWN ARROWHEADfFISH TAILfRIGHT DIAGONAL ELLIPSISfTACKj WITH CIRCLE BELOWe-POINTING RED TRIANGLEoSMALL RED TRIANGLEoTRIANGLE WITH LEFT HALF BLACK$RIGHT HALF BLACKeWARD FACING HOOKu WITH DOTqNOTCHED HOOK$ WITH DOTiS ANCORAlRROWp AND RIGHT ONE EIGHTH BLOCKqFROM BARqLEFTWARDS OF UPWARDS ARROWqTO BARqWITH CORNER LEFTWARDSv",
    "DOUBLE STROKEvEQUILATERAL ARROWHEADvHORIZONTAL STROKEvLARGE TRIANGLE ARROWHEADvMEDIUM TRIANGLE ARROWHEADvNOTCHED TAILvSMALL EQUILATERAL ARROWHEAD#TRIANGLE ARROWHEADvTIP LEFTWARDSzRIGHTWARDSkBLACK ARROWqCIRCLED WHITE ARROWkCOMPRESSED ARROWkDASHED ARROWlOUBLE ARROWkFINGER-POST ARROWkHARPOON WITH BARB LEFT BESIDE DOWNWARDS HARPOON WITH BARB RIGHT=UPWARDS HARPOON WITH BARB RIGHT*FROM BAR*TO BAR)WARDS$RIGHT FROM BAR+TO BAR*WARDSlEAVY ARROWqCOMPRESSED ARROWkPAIRED ARROWSkQUADRUPLE ARROWkROCKETkSANS-SERIF ARROWlQUARED ARROWkTRIANGLE ARROWHEADs-HEADED ARROW( LEFTWARDS OF UPWARDS TRIANGLE-HEADED ARROW)TO BAR)WITH BOLD SHAFT:DOUBLE HORIZONTAL STROKE:HEAVY SHAFT:LONG TIP LEFTWARDS^RIGHTWARDS:MEDIUM SHAFT:NARROW SHAFT:VERY HEAVY SHAFT!DASHED ARROW!PAIRED ARROWS!ZIGZAG ARROWnPLE ARROWlWO HEADED ARROWn-HEADED ARROW WITH TRIANGLE ARROWHEADSkWHITE ARROWv WITHIN TRIANGLE ARROWHEADkZIGZAG ARROWbRACHMA SIGNdFTING POINT RIGHTWARDS ARROWdGONg FACEcESScIVE SLOW SIGNcOMEDARY CAMELdOLING FACEdP OF BLOODeLETcU",
    "M WITH DRUMSTICKSbUCKcMPLINGcPLOYAN AFFIX ATTACHED E HOOKyI HOOKyLEFT-TO-RIGHT SECANTySECANTyTAIL!NGENT( HOOKpHIGH ACUTEuCIRCLEuDOTuGRAVEuLINEvONG GRAVEuTIGHT ACUTEuVERTICAL$ SECANTuWAVEpLEFT HORIZONTAL SECANTqOW ACUTEuRROWtCIRCLEtDOTtGRAVEtLINEuONG GRAVEtTIGHT ACUTEtVERTICAL# SECANTtWAVEpMID HORIZONTAL SECANTtVERTICAL SECANTpRIGHT HORIZONTAL SECANTjDOUBLE MARKjLETTER ArOUqBqDr SrHqErErUqFr NqGr R SqHrLqIrEqJr Mt SsNt SsSt WITH DOTsWITH DOT!S INSIDE AND ABOVEqKr MsR SrKqLrHrONG IvUqMr Nt SsSsWITH DOTqNr Mt SsSsWITH DOTrASAL AwIwOwUqOrArOHrUrWqPr NrERNIN AMyNqRr SrHrOMANIAN IzUqSr Jt SsKt RsMsNsPt RsSsTt RsWITH DOT! BELOWrHORT IrLOAN ANwDHwEExHxNwJwONxWwUqTr R SsSrHqUr NrHrIqVrOCALIC MqWr RrArEIrHrIrOsWqXrWqYEjPUNCTUATION CHINOOK FULL STOPjSIGN O WITH CROSSjTHICK LETTER SELECTORbVDaE-MAIL SYMBOLbAGLEcRd OF MAIZEhRICEeWITH HEARING AIDdTHf GLOBE AMERICASnSIA-AUSTRALIAmEUROPE-AFRICAhROUNDcST SYRIAC CROSSbDITORIAL CORONISbGGcYPTIAN HIEROGLYPH A001x2x3x4x5yAx6yAyBx7x8x9w10x1x2x3x4yAx5x6x7yAx",
    "8x9w20x1x2x3x4x5x6x7x8x9w30x1x2yAx3x4x5x6x7x8x9w40yAx1x2yAx3yAx4x5yAx6x7x8x9w50x1x2x3x4x5x6x7x8x9w60x1x2x3x4x5x6x7x8x9w70vA001y2y3y4y5y6y7zAzBy8y9x10y1y2y3y4y5y6y7y8y9x20y1y2y3y4y5y6y7y8y9x30y1y2uB001x2x3x4x5yAx6x7x8x9vEGIN SEGMENTuC001x2yAyByCx3x4x5x6x7x8x9w10yAx1x2x3x4x5x6x7x8x9w20x1x2x3x4uD001x2x3x4x5x6x7x8yAx9w10x1x2x3x4x5x6x7x8x9w20x1x2x3x4x5x6x7yAx8x9w30x1yAx2x3x4yAx5x6x7x8x9w40x1x2x3x4x5x6yAx7x8yAx9w50yAyByCyDyEyFyGyHyIx1x2yAx3x4yAx5x6x7x8x9w60x1x2x3x4x5x6x7yAyByCyDyEyFyGyHuE001x2x3x4x5x6x7x8yAx9yAw10x1x2x3x4x5x6yAx7yAx8x9w20yAx1x2x3x4x5x6x7x8yAx9w30x1x2x3x4yAx6x7x8vND SEGMENTuF001yAx2x3x4x5x6x7x8x9w10x1x2x3yAx4x5x6x7x8x9w20x1yAx2x3x4x5x6x7x8x9w30x1yAx2x3x4x5x6x7yAx8yAx9w40x1x2x3x4x5yAx6yAx7yAx8x9w50x1yAyByCx2x3uG001x2x3x4x5x6yAx7yAyBx8x9w10x1yAx2x3x4x5x6x7x8x9w20yAx1x2x3x4x5x6yAx7x8x9w30x1x2x3x4x5x6yAx7yAx8x9w40x1x2x3yAx4x5yAx6x7x8x9w50x1x2x3x4uH001x2x3x4x5x6yAx7x8vORIZONTAL JOINERuI001x2x3x4x5yAx6x7x8x9yAw10yAx1yAx2x3x4x5vNSERT AT BOTTOM END:START&TOP END+STARTuK001x2x3x4x5x6x",
    "7x8uL001x2yAx3x4x5x6yAx7x8uM001yAyBx2x3yAx4x5x6x7x8x9w10yAx1x2yAyByCyDyEyFyGyHx3x4x5yAx6yAx7yAx8x9w20x1x2yAx3x4yAx5x6x7x8yAx9w30x1yAx2x3yAyBx4x5x6x7x8x9w40yAx1x2x3x4uN001x2x3x4x5x6x7x8x9w10x1x2x3x4x5x6x7x8yAyBx9w20x1x2x3x4x5yAx6x7x8x9w30x1x2x3yAx4yAx5yAx6x7yAx8x9w40x1x2vL001y2y3y4y5zAy6y7y8y9x10y1y2y3y4y5y6y7zAy8y9x20vU001y2y3y4y5y6y7y8y9x10zAy1zAy2y3y4y5y6y7y8zAy9x20y1y2zAuO001yAx2x3x4x5yAx6yAyByCyDyEyFx7x8x9w10yAyByCx1x2x3x4x5x6x7x8x9yAw20yAx1x2x3x4yAx5yAx6x7x8x9yAw30yAx1x2x3yAx4x5x6yAyByCyDx7x8x9w40x1x2x3x4x5x6x7x8x9w50yAyBx1vVERLAY MIDDLEuP001yAx2x3yAx4x5x6x7x8x9w10x1uQ001x2x3x4x5x6x7uR001x2yAx3yAyBx4x5x6x7x8x9w10yAx1x2x3x4x5x6yAx7x8x9w20x1x2x3x4x5x6x7x8x9uS001x2yAx3x4x5x6yAx7x8x9w10x1x2x3x4yAyBx5x6x7yAx8x9w20x1x2x3x4x5x6yAyBx7x8x9w30x1x2x3x4x5yAx6x7x8x9w40x1x2x3x4x5x6uT001x2x3yAx4x5x6x7yAx8yAx9yAw10x1yAx2x3x4x5x6yAx7x8x9w20x1x2x3x4x5x6x7x8x9w30x1x2yAx3yAx4x5x6uU001x2x3x4x5x6yAyBx7x8x9w10x1x2x3x4x5x6x7x8x9w20x1x2x3yAx4x5x6x7x8x9yAw30x1x2yAx3x4x5x6x7x8x9w40x1x2uV001yAyByCyDyEyFyGyHy",
    "Ix2yAx3x4x5x6x7yAyBx8x9w10x1yAyByCx2yAyBx3x4x5x6x7x8x9w20yAyByCyDyEyFyGyHyIyJyKyLx1x2x3yAx4x5x6x7x8yAx9yAw30yAx1yAx2x3yAx4x5x6x7yAx8x9w40yAvERTICAL JOINERuW001x2x3yAx4x5x6x7x8x9yAw10yAx1x2x3x4yAx5x6x7yAx8yAx9w20x1x2x3x4yAx5uX001x2x3x4yAyBx5x6yAx7x8yAuY001yAx2x3x4x5x6x7x8uZ001x2yAyByCyDx3yAyBx4yAx5yAx6x7x8x9w10x1x2x3x4x5yAyByCyDyEyFyGyHyIx6yAyByCyDyEyFyGyHbIGHT PETALLED OUTLINED BLACK FLORETTEhOINTED BLACK STARoPINWHEEL STARoRECTILINEAR BLACK STARgSPOKED ASTERISKgTEARDROP-SPOKED PROPELLER ASTERISKfH NOTEbJECT SYMBOLbLBASAN LETTER ApBEpCEqHEpDEqHEpEqIpFEpGEqHAMMArEqJEpHEpIpJEpKEqHEpLEqLEpMEpNAqDEqEqJEpOpPEpQEpREqREpSEqHEpTEqHEpUpVEpXEpYpZEqHEcECTRIC ARROWjLIGHT BULBjPLUGjTORCHiAL INTERSECTIONdMENT OFk OPENING DOWNWARDStUPWARDSlWITH DOT ABOVEqLONG HORIZONTAL STROKEqOVERBARqTWO HORIZONTAL STROKESqUNDERBARqVERTICAL BAR AT END OF HORIZONTAL STROKEdPHANTdVATORcFcYMAIC LETTER ALEPHqYINpBETHpDALETHpGIMELpHErTHpKAPHpLAMEDHpMEMpNUNpPEpQOPHpRESHpSADHErMEKHqHINpTAWqETHpWAWpYODHpZAYINjIGATURE ZAYIN-",
    "YODHbM DASHdQUADdSPACEcOJI COMPONENT BALDqCURLY HAIRqRED HAIRqWHITE HAIRgMODIFIER FITZPATRICK TYPE-1-2)3)4)5)6cPHASIS SYMBOLdTY DOCUMENTgNESThOTEk PADnGEgPAGEkSgSETj WITH LEFT ARROW ABOVEpOVERBARpRIGHT ARROW ABOVEpSMALL CIRCLE ABOVEbN DASHdQUADdSPACEcD OF GUARDED AREAhLINEhMEDIUMhPROOFkTECTED AREAhSELECTED AREAhTEXTiRANSMISSIONt BLOCKeWITH LEFTWARDS ARROW ABOVEcQdUIRYcTER SYMBOLcVELOPEi WITH DOWNWARDS ARROW ABOVEoLIGHTNINGbOLcMcTbPAbQUAL AND PARALLEL TOgTO BY DEFINITIONjOR GREATER-THANmLESS-THANmPRECEDESmSUCCEEDSfS COLONhSIGNl ABOVE LEFTWARDS ARROWsPLUS SIGNsRIGHTWARDS ARROWsTILDE OPERATORnND SLANTED PARALLEL) WITH TILDE ABOVEmWITH BUMPY ABOVErDOT BELOWrINFINITY BELOWrTWO DOTS ABOVE AND TWO DOTS BELOWhWITH ASTERISKdIANGULAR TOeVALENT TOlWITH FOUR DOTS ABOVEbRASE TO THE LEFTnRIGHTcIS FORM ONEkTWOcROR-BARRED BLACK CIRCLEtDIAMONDtSQUAREnWHITE CIRCLEtDIAMONDtSQUAREbSAcCdAPEcTIMATED SYMBOLiSbTBcHIOPIC COLONlMBINING GEMINATION AND VOWEL LENGTH MARK&MARKtVOWEL LENGTH MARKmMAjDIGIT EIGHTpFIVEq",
    "OURpNINEpONEpSEVENqIXpTHREEqWOjFULL STOPjNUMBER EIGHTYqFIFTYrORTYqHUNDREDqNINETYqSEVENTYrIXTYqTENt THOUSANDrHIRTYrWENTYjPARAGRAPH SEPARATORkREFACE COLONjQUESTION MARKjSECTION MARKlMICOLONkYLLABLE BAuAtBAvAuEvEuIuOuUtEuEtItOuAtUtWAuEvEuIsCAuAtCAvAuEvEuHAwAvEwEvHAxAwExEwIwOwUvIvOvUuIuOuUtEuEtHAvAuEvEuIuOvAuUuWAtItOuAtUtWAsDAuAtDAvAuEvEuHAAvEwEvIvOvUuIuOvAuUuWAtEuEtItOuAtUtWAtZAAuEvEuIuOuUsFAuAtEuEtItOtUtWAuEvEuItYAsGAuAtEuEtGAvAuEvEuIuOuUuWAwAvEwEvItItLOTTAL A#A!E#E!I!O#A!U!WAtOuAtUuRAGE BWEE#IzFWEE#IzGWE$E#IzHHWAzKWE$E#IzMWEE#IzPWEE#IzQWE$E#ItWAvAuEvEuItYAvAuEvEuIuOuUsHAuAtEuEtHAvAuEvEuIuOuUuWAvEwEvIuYAwAvEwEvIvOvUtItOuAtUsJAuAtEuEtItOuAtUtWAsKAuAtEuEtItOuAtUtWAvAuEvEuItXAvAuEvEuIuOuUuWAwAvEwEvItYAvAuEvEuIuOuUsLAuAtEuEtItOuAtUtWAsMAuAtEuEtItOuAtUtWAuEvEuItYAsNAuAtEuEtItOuAtUtWAtYAvAuEvEuIuOvAuUuWAsPAuAtEuEtHAvAvRYNGEAL A&A%E&E%I%O%UuEvEuIuOvAuUuWAtItOuAtUtWAuEvEuIsQAuAtEuEtHAvAuEvEuIuOuUuWAwAvEwEvItItOuAtUtWAvAuEvEuItYAvAuEvEuIuOuUsRAuAtEuEtItOuAtUtWAtYAsSAuAtEuBATBEIT BWA$FWA$MWA$PWAuE",
    "tHAvAuEvEuIuOvAuUuWAtItOuAtSAvAuEvEuIuOuUtUtWAtZAvAuEvEuIuOuUuWAsTAuAtEuEtHAvAuEvEuIuOvAuUuWAtItOuAtSAvAuEvEuIuOuUuWAtTHAAvEwEvIvOvUtUtWAtZAvAuEvEuIuOvAuUsVAuAtEuEtItOtUtWAsWAuAtEuEtItOuAtUsXAuAtEuEtItOuAtUtWAvAuEvEuItYAvAuEvEuIuOuUsYAuAtEuEtItOuAtUsZAuAtEuEtHAvAuEvEuIuOuUuWAtItOuAtUtWAtZAvAuEvEuIuOuUjTONAL MARK CHIRETuDERETz-HIDETvIFATuHIDETuKENATvURTuRIKRIKuSHORT RIKRIKuYIZETjWORDSPACEcXbULER CONSTANTcRO SIGNe-CURRENCY SIGNePEAN CASTLEjPOST OFFICEbVERGREEN TREEbXCESSdLAMATION MARKmQUESTION MARKcPRESSIONLESS FACEcTENDED ARABIC-INDIC DIGIT EIGHT$FIVE%OUR$NINE$ONE$SEVEN%IX$THREE%WO$ZEROdRATERRESTRIAL ALIENeEMELY HEAVY FIVE SPOKED ASTERISKqGREEK CROSSqSALTIRErIX SPOKED ASTERISKqWHITE CIRCLEwSQUAREbYEdGLASSESdSaFACE HOLDING BACK TEARSfMASSAGEfPALMfSAVOURING DELICIOUS FOODgCREAMING IN FEARfTHROWING A KISSfWITH COLD SWEATmWBOY HATkDIAGONAL MOUTHkFINGER COVERING CLOSED LIPSkHEAD-BANDAGEkLOOK OF TRIUMPHkMEDICAL MASKlONOCLEkNO GOOD GESTUREkOK GESTURElNE EYEBROW RAISEDlPEN EYES AND HAND OVER MO",
    "UTHpMOUTHu AND COLD SWEATvVOMITINGkPARTY HORN AND PARTY HATlEEKING EYElLEADING EYESkROLLING EYESkSTUCK-OUT TONGUE! AND TIGHTLY-CLOSED EYES(WINKING EYEkTEARS OF JOYlHERMOMETERkUNEVEN EYES AND WAVY MOUTHjOUT MOUTHdSIMILE SIGNdTORYcIRYcLAFELdLEN LEAFeING DIAGONAL CROSSING NORTH EAST ARROW!RISING DIAGONALrIN WHITE CIRCLE IN BLACK SQUAREcMILYcRSI SYMBOLcTHER CHRISTMAScX ICONeMACHINEbEARFUL FACEdTHERcMALE SIGNdININE ORDINAL INDICATORcNCERcRRIS WHEELeYbFbIELD HOCKEY STICK AND BALLcGURE DASHhSPACEcLE CABINETfFOLDERfSEPARATORdM FRAMESfPROJECTORcNITE PART INTEGRALcREe ENGINEgXTINGUISHEReCRACKEReWORK SPARKLERiSdST PLACE MEDALgQUARTER MOONs SYMBOLtWITH FACEgSTRONG ISOLATEcSHe CAKE WITH SWIRL DESIGNeEYEeING POLE AND FISHdTED HAND SIGNcVE DOT MARKjPUNCTUATIONbLAG IN HOLEdMINGOdT SHOEeBREADeNESScEUR-DE-LISdXED BICEPScOPPY DISKdRAL HEARTdWERg PLAYING CARDSiUNCTUATION MARKcUSHED FACEcYdING DISChENVELOPEhSAUCERbOGdGYcLDERcNDUEcOTePRINTScR ALLdCESdK AND KNIFEo WITH PLATEeED PARAGRAPHOSeINGdM FEEDdTUNE CO",
    "OKIEcUNTAINdR BALLOON-SPOKED ASTERISKfCLUB-SPOKED ASTERISKgORNER ARROWS CIRCLING ANTICLOCKWISEfDOT MARKjPUNCTUATIONfLEAF CLOVERfPOINTED BLACK STARfTEARDROP-SPOKED ASTERISKe-PER-EM SPACEeTH ROOTcX FACEbRACTION NUMERATOR ONEjSLASHdME WITH AN XlPICTURElTILEScEEZING FACEdNCH FRANC SIGNjIEScIED SHRIMPcOG FACEdNT-FACING BABY CHICKgTILTED SHADOWED WHITE RIGHTWARDS ARROWdWNfING FACE WITH OPEN MOUTHbScIbUEL PUMPcLL BLOCKfMOON SYMBOLkWITH FACEfOUTER JOINfSTOPeWIDTH AMPERSANDlPOSTROPHElSTERISKkBROKEN BARkCENT SIGNlIRCUMFLEX ACCENTlOLONmMMAoERCIAL ATkDIGIT EIGHTqFIVErOURqNINEqONEqSEVENrIXqTHREErWOqZEROlOLLAR SIGNkEQUALS SIGNlXCLAMATION MARKkFULL STOPkGRAVE ACCENTmEATER-THAN SIGNkHYPHEN-MINUSkLATIN CAPITAL LETTER A(B(C(D(E(F(G(H(I(J(K(L(M(N(O(P(Q(R(S(T(U(V(W(X(Y(ZqSMALL LETTER A%B%C%D%E%F%G%H%I%J%K%L%M%N%O%P%Q%R%S%T%U%V%W%X%Y%ZlEFT CURLY BRACKETpPARENTHESISpSQUARE BRACKETpWHITE PARENTHESISmSS-THAN SIGNlOW LINEkMACRONkNOT SIGNlUMBER SIGNkPERCENT SIGNlLUS SIGNlOUND SIGNkQUESTION MARKmOTATION MARKkREV",
    "ERSE SOLIDUSlIGHT CURLY BRACKETqPARENTHESISqSQUARE BRACKETqWHITE PARENTHESISkSEMICOLONlOLIDUSkTILDEkVERTICAL LINEkWON SIGNkYEN SIGNcNCTION APPLICATIONdERAL URNcSEbVS1d2d3d4aGAME DIEcRLICbEARe WITH HANDLESjOUT HUBcM STONEdINIcNIEcOMETRIC PROPORTIONjALLY EQUAL TOrIVALENT TOdRGIAN CAPITAL LETTER AENzNyBANyCANzHAR!INzILyDONyENyGANzHANyHAE!RzEzIEzOEyINyJHANzILyKANzHARyLASyMANyNARyONyPARzHARyQARyRAEySANzHINyTAN!RyUNyVINyWEyXANyYNyZENzHARjLETTER AENrINrNqBANqCANrHARsINrILqDONqELIFIrNqFIqGANrHANqHAEsRtD SIGNrErIErOEqINqJHANrILqKANrHARqLABIAL SIGNsSqMANqNARqONqPARrHARqQARqRAEqSANrHINqTANsRrURNED GANqUNqVINqWEqXANqYNqZENrHARjMTAVRULI CAPITAL LETTER AEN+IN+N*BAN*CAN+HAR,IN+IL*DON*ELIFI+N*FI*GAN+HAN*HAE,R.D SIGN+E+IE+OE*IN*JHAN+IL*KAN+HAR*LABIAL SIGN,S*MAN*NAR*ON*PAR+HAR*QAR*RAE*SAN+HIN*TAN,R+URNED GAN*UN*VIN*WE*XAN*YN*ZEN+HARjPARAGRAPH SEPARATORjSMALL LETTER AENxNwBANwCANxHARyINxILwDONwENwGANxHANwHAEyRxExIExOEwINwJHANxILwKANxHARwLASwMANwNARwONwPARxHARwQARwRAEwSANxHINwTANyRwUNwVINwWEwXANwYNwZENxHA",
    "RcRMAN PENNY SIGNcTA MARKbHOSTbIMEL SYMBOLcRAFFE FACEdLeS SYMBOLbLAGOLITIC CAPITAL LETTER AZU!BIG YUS#UKY!CAUDATE CHRIVI#HRIVI!DJERVI#OBRO#ZELO!FITA#RITU!GLAGOLI!HERU!I#NITIAL IZHE#OTATED BIG YUS+SMALL YUS#ZHE%ITSA!KAKO!LATINATE MYSLITE#JUDIJE!MYSLITE!NASHI!ONU#TU!PE#OKOJI!RITSI!SHA$TA&PIC#LOVO#MALL YUS, WITH TAIL#PIDERY HA!TROKUTASTI A#SI#VRIDO!UKU!VEDE!YATI#ERI%U$STU#O#U!ZEMLJA#HIVETElSMALL LETTER AZUyBIG YUSzUKYyCAUDATE CHRIVIzHRIVIyDJERVIzOBROzZELOyFITAzRITUyGLAGOLIyHERUyIzNITIAL IZHEzOTATED BIG YUS)SMALL YUSzZHE#ITSAyKAKOyLATINATE MYSLITEzJUDIJEyMYSLITEyNASHIyONUzTUyPEzOKOJIyRITSIySHA!TA$PICzLOVOzMALL YUS* WITH TAILzPIDERY HAyTROKUTASTI AzSIzVRIDOyUKUyVEDEyYATIzERI#U!STUzOzUyZEMLJAzHIVETEdSS OF MILKcEICH STARKcOBE WITH MERIDIANSdVESdWING STARbOAL NETdTcGGLEScLFERcRILLAcTHIC LETTER AHSApIHVUSoBAIRKANoDAGSoEISoFAIHUoGIBAoHAGLpWAIRoIGGWSpUJAoJERoKUSMAoLAGUSoMANNAoNAUTHSpINE HUNDREDsTYoOTHALoPAIRTHRAoQAIRTHRAoRAIDAoSAUILoTEIWSpHIUTHoURUSoWINJAbRADUATION CAPdNTHA AU LENGTH MARKiLETTER ",
    "AqAqIqUpBAqHApCAqHApDAqDArHAqHApEEpGAqHApHApIqIpJAqHApKAqHApLAqLApMApNAqGAqNAqYApOOpPAqHApRApSAqHAqSApTAqHAqTArHApUqUpVAqEDIC ANUSVARAvDOUBLE ANUSVARAqOCALIC LyLxRyRpYAiOMiSIGN ANUSVARAoVAGRAHAnCANDRABINDUoOMBINING ANUSVARA ABOVEnNUKTAnPLUTAnVIRAMApSARGAiVOWEL SIGN AAuIuUtEEtIuItOOtUuUtVOCALIC L$L#R$RdPESdVE ACCENTcEATER-THAN ABOVE DOUBLE-LINE EQUAL ABOVE LESS-THANtLESS-THAN ABOVE DOUBLE-LINE EQUALtRIGHTWARDS ARROWtSIMILAR ABOVE LESS-THAN#OR EQUALuLANTED EQUAL ABOVE LESS-THAN ABOVE SLANTED EQUALoND NOT APPROXIMATErSINGLE-LINE NOT EQUAL TOnBESIDE LESS-THANoUT NOT EQUAL TOyIVALENT TOnCLOSED BY CURVE$ ABOVE SLANTED EQUALnEQUAL TO OR LESS-THANnOR APPROXIMATEqEQUAL TOtIVALENT TOqLESS-THANqSLANTED EQUAL TO) WITH DOT ABOVE_ LEFT?INSIDEoVER EQUAL TOrLAPPING LESS-THANnSIGNnWITH CIRCLE INSIDEsDOTsQUESTION MARK ABOVEdEK ACROPHONIC ATTIC FIFTY$ STATERS%TALENTS&HOUSAND: STATERSzVE# HUNDRED, STATERS.TALENTS$STATERS$TALENTS%HOUSAND. TALENTSxONE DRACHMA#HALF$UNDRED STATERS,TALENTS#QUARTER#THOUSAND STA",
    "TERS.TALENTSxTEN MNAS#STATERS#TALENTS$HOUSAND STATERSrCARYSTIAN FIVE HUNDREDsYRENAIC TWO DRACHMASrDELPHIC FIVE MNASrEPIDAUREAN FIVE HUNDRED$TWO( DRACHMASrHERAEUM ONE PLETHRONuMIONIAN FIFTY$ONE$TENrMESSENIAN TENrNAXIAN FIVE HUNDREDrSTRATIAN FIFTY MNASrTHESPIAN FIFTY$VE HUNDRED(THOUSAND!ONE% HUNDRED&THOUSAND!TEN#HIRTY$REE HUNDRED#WOsROEZENIAN FIFTY* ALTERNATE FORM&VE) HUNDRED$TEN( ALTERNATE FORMhNO TELEIAhROURA SIGNiTABE SIGNgBETA SYMBOLgCAPITAL DOTTED LUNATE SIGMA SYMBOLoKAI SYMBOLoLETTER ALPHA! WITH DASIA: AND OXIA^ AND PROSGEGRAMMENI?PERISPOMENI~MENI AND PROSGEGRAMMENI@ROSGEGRAMMENI?VARIA_ AND PROSGEGRAMMENI)MACRON)OXIA)PROSGEGRAMMENI*SILI: AND OXIA^ AND PROSGEGRAMMENI?PERISPOMENI~MENI AND PROSGEGRAMMENI@ROSGEGRAMMENI?VARIA_ AND PROSGEGRAMMENI)TONOS)VARIA*RACHYwRCHAIC SAMPIvBETAvCHIvDELTAvEPSILON$ WITH DASIA< AND OXIA[VARIA+OXIA+PSILI< AND OXIA[VARIA+TONOS+VARIAwTAy WITH DASIA, AND OXIA[ AND PROSGEGRAMMENI=PERISPOMENI~NI AND PROSGEGRAMMENI>ROSGEGRAMMENI=VARIA] AND PROSGEGRAMMENI&OXIA&",
    "PROSGEGRAMMENI(SILI, AND OXIA[ AND PROSGEGRAMMENI=PERISPOMENI~NI AND PROSGEGRAMMENI>ROSGEGRAMMENI=VARIA] AND PROSGEGRAMMENI&TONOS&VARIAvGAMMAvHETAvIOTAz WITH DASIA. AND OXIA>PERISPOMENI>VARIA)IALYTIKA(MACRON(OXIA(PSILI. AND OXIA>PERISPOMENI>VARIA(TONOS(VARIA)RACHYvKAPPAvLAMDAvMUvNUvOMEGA! WITH DASIA: AND OXIA^ AND PROSGEGRAMMENI?PERISPOMENI~MENI AND PROSGEGRAMMENI@ROSGEGRAMMENI?VARIA_ AND PROSGEGRAMMENI)OXIA)PROSGEGRAMMENI*SILI: AND OXIA^ AND PROSGEGRAMMENI?PERISPOMENI~MENI AND PROSGEGRAMMENI@ROSGEGRAMMENI?VARIA_ AND PROSGEGRAMMENI)TONOS)VARIAxICRON$ WITH DASIA< AND OXIA[VARIA+OXIA+PSILI< AND OXIA[VARIA+TONOS+VARIAvPAMPHYLIAN DIGAMMAwHIwIwSIvRHOy WITH DASIAvSANwHOwIGMAvTAUwHETAvUPSILON$ WITH DASIA< AND OXIA[PERISPOMENI[VARIA,IALYTIKA+MACRON+OXIA+TONOS+VARIA,RACHYvXIvYOTvZETApUNATE SIGMA SYMBOLoREVERSED DOTTED LUNATE SIGMA SYMBOLxLUNATE SIGMA SYMBOLoTHETA SYMBOLgDASIAl AND OXIAqPERISPOMENIqVARIAhIALYTIKA AND OXIAuPERISPOMENIuVARIAqTONOShRACHMA SIGNgFIVE OBOLS SIGNhOUR OBOLS SIGNgGRAMMA ",
    "SIGNgINDICTION SIGNiSTRUMENTAL NOTATION SYMBOL-1.1.2.3.4.7.8.9,2.3.4.5.6.7.9,30.2.6.7.8.9,4.0.2.3.5.7.8.9,5.0.1.2.3.4,7,8gKAI SYMBOLiPPA SYMBOLhORONIShYATHOS BASE SIGNgLETTER ARCHAIC KOPPAnDIGAMMAnKOPPAnSAMPIoMALL CAPITAL GAMMA#LAMDA#OMEGA#PI$SI#RHOoTIGMAnYOThITRA SIGNhOWER NUMERAL SIGNhUNATE EPSILON SYMBOLnSIGMA SYMBOLgMETRETES SIGNhUSICAL LEIMMAgNUMERAL SIGNgOBOL SIGNhNE HALF SIGNt ALTERNATE FORMkQUARTER SIGNhUNKIA SIGNhXIAgPERISPOMENIhHI SYMBOLhI SYMBOLhROSGEGRAMMENIhSILIl AND OXIAqPERISPOMENIqVARIAgQUESTION MARKgREVERSED LUNATE EPSILON SYMBOLhHO SYMBOLkWITH STROKE SYMBOLgSINUSOID SIGNhMALL DOTTED LUNATE SIGMA SYMBOLmLETTER ALPHAy WITH DASIA, AND OXIA[ AND YPOGEGRAMMENI=PERISPOMENI~NI AND YPOGEGRAMMENI=VARIA] AND YPOGEGRAMMENI=YPOGEGRAMMENI&MACRON&OXIA+ AND YPOGEGRAMMENI&PERISPOMENI> AND YPOGEGRAMMENI(SILI, AND OXIA[ AND YPOGEGRAMMENI=PERISPOMENI~NI AND YPOGEGRAMMENI=VARIA] AND YPOGEGRAMMENI=YPOGEGRAMMENI&TONOS&VARIA, AND YPOGEGRAMMENI(RACHY&YPOGEGRAMMENIuRCHAIC KOPPA#SAMPItBETAtCHI",
    "tDELTAuIGAMMAtEPSILON! WITH DASIA: AND OXIA?VARIA)OXIA)PSILI: AND OXIA?VARIA)TONOS)VARIAuTAw WITH DASIA* AND OXIA? AND YPOGEGRAMMENI;PERISPOMENI~ AND YPOGEGRAMMENI;VARIA@ AND YPOGEGRAMMENI;YPOGEGRAMMENI$OXIA) AND YPOGEGRAMMENI$PERISPOMENI< AND YPOGEGRAMMENI%SILI* AND OXIA? AND YPOGEGRAMMENI;PERISPOMENI~ AND YPOGEGRAMMENI;VARIA@ AND YPOGEGRAMMENI;YPOGEGRAMMENI$TONOS$VARIA* AND YPOGEGRAMMENI$YPOGEGRAMMENItFINAL SIGMAtGAMMAtHETAtIOTAx WITH DASIA+ AND OXIA<PERISPOMENI<VARIA&IALYTIKA; AND OXIA@PERISPOMENI@TONOS@VARIA%MACRON%OXIA%PERISPOMENI&SILI+ AND OXIA<PERISPOMENI<VARIA%TONOS%VARIA&RACHYtKAPPAuOPPAtLAMDAtMUtNUtOMEGAy WITH DASIA, AND OXIA[ AND YPOGEGRAMMENI=PERISPOMENI~NI AND YPOGEGRAMMENI=VARIA] AND YPOGEGRAMMENI=YPOGEGRAMMENI&OXIA+ AND YPOGEGRAMMENI&PERISPOMENI> AND YPOGEGRAMMENI(SILI, AND OXIA[ AND YPOGEGRAMMENI=PERISPOMENI~NI AND YPOGEGRAMMENI=VARIA] AND YPOGEGRAMMENI=YPOGEGRAMMENI&TONOS&VARIA, AND YPOGEGRAMMENI&YPOGEGRAMMENIvICRON! WITH DASIA: AND OXIA?VARIA)OXIA)PSILI: AND OXIA?VARI",
    "A)TONOS)VARIAtPAMPHYLIAN DIGAMMAuHIuIuSItRHOw WITH DASIA$PSILItSAMPIvNuHOuIGMAuTIGMAtTAUuHETAtUPSILON! WITH DASIA: AND OXIA?PERISPOMENI?VARIA*IALYTIKA> AND OXIA^PERISPOMENI^TONOS^VARIA)MACRON)OXIA)PERISPOMENI*SILI: AND OXIA?PERISPOMENI?VARIA)TONOS)VARIA*RACHYtXItZETAmREVERSED DOTTED LUNATE SIGMA SYMBOLvLUNATE SIGMA SYMBOLhUBSCRIPT SMALL LETTER BETA%CHI%GAMMA%PHI%RHOhYMBOL TAU RHOgTALENT SIGNhHETA SYMBOLiREE OBOLS SIGNmQUARTERS SIGNhONOShRYBLION BASE SIGNhWO OBOLS SIGNkTHIRDS SIGNgUPSILON WITH ACUTE AND HOOK SYMBOLtDIAERESIS AND HOOK SYMBOLtHOOK SYMBOLgVARIAhOCAL NOTATION SYMBOL-1%0%1%2%3%4%5%6%7%8%9$2%0%1%2%3%4$3$4$5%0%1%2%3%4$6$7$8$9gXESTES SIGNgYEAR SIGNhPOGEGRAMMENIgZERO SIGNeN APPLEgBOOKgHEARTgSALADcIMACING FACEdNNING CAT FACE WITH SMILING EYESjFACEn WITH ONE LARGE AND ONE SMALL EYEtSMILING EYESuTAR EYEScOUP MARKgSEPARATORdWING HEARTbSbUARANI SIGNeDSMANcIDE DOGdTARcJARATI ABBREVIATION SIGNjDIGIT EIGHTpFIVEqOURpNINEpONEpSEVENqIXpTHREEqWOpZEROjLETTER ArArIrUqBArHAqCArHAqDArDAsHArHAqE",
    "qGArHAqHAqIrIqJArHAqKArHAqLArLAqMAqNArGArNArYAqOqPArHAqRAqSArHArSAqTArHArTAsHAqUrUqVArOCALIC LzLyRzRqYAqZHAjOMjRUPEE SIGNjSIGN ANUSVARApVAGRAHAoCANDRABINDUpIRCLE NUKTA ABOVEoMADDAHoNUKTAoSHADDApUKUNoTHREE-DOT NUKTA ABOVEpWO-CIRCLE NUKTA ABOVEoVIRAMAqSARGAjVOWEL CANDRA EwOpSIGN AAvIvUuCANDRA E#OuEuIvIuOuUvUuVOCALIC L%L$R%RcNJALA GONDI DIGIT EIGHTuFIVEvOURuNINEuONEuSEVENvIXuTHREEvWOuZEROoLETTER AwAwIwUvBAwHAvCAwHAvDAwDAxHAwHAvEEvGAwHAvHAvIwIvJAwHAvKAwHAvLAwLAvMAvNAwGAvOOvPAwHAvRAvSAvTAwHAwTAxHAvUwUvVAvYAoOMoSIGN ANUSVARAtVISARGAoVIRAMApOWEL SIGN AA!I!UzEEzI!IzOOzU!UcRMUKHI ABBREVIATION SIGNkDDAKjDIGIT EIGHTpFIVEqOURpNINEpONEpSEVENqIXpTHREEqWOpZEROjEK ONKARjIRIjLETTER ArArIrUqBArHAqCArHAqDArDAsHArHAqEEqFAqGArHAsHAqHAqIrIqJArHAqKArHAsHAqLArLAqMAqNArGArNArYAqOOqPArHAqRArRAqSArHAqTArHArTAsHAqUrUqVAqYAqZAjSIGN ADAK BINDIoBINDIoNUKTAoUDAAToVIRAMAqSARGAoYAKASHjTIPPIjURAjVOWEL SIGN AAvIvUuEEuIvIuOOuUvUaHADEScIR SPACEeCUTcLFWIDTH BLACK SQUAREkDOWNWARDS ARROWkFORMS LIGHT VERTICALkHANGUL FILLERrLET",
    "TER AzEyCHIEUCHzIEUCyEzOzUyHIEUHyIzEUNGyKHIEUKHzIYEOK&-SIOSyMIEUMyNIEUN%-CIEUC&HIEUHyOzEyPHIEUPHzIEUP%-SIOSyRIEUL%-HIEUH&KIYEOK&MIEUM&PHIEUPH(IEUP&SIOS&THIEUTHySIOSzSANGCIEUC%KIYEOK%PIEUP%SIOS%TIKEUTyTHIEUTHzIKEUTyUyWA!EzE!OzIyYA!EzE!OzIzOzUkIDEOGRAPHIC COMMAwFULL STOPkKATAKANA LETTER A!E!HA#E#I#O#U!I!KA#E#I#O#U!MA#E#I#O#U!N#A#E#I#O#U!O!RA#E#I#O#U!SA#E#I#MALL A)E)I)O)TU)U)YA*O*U#O#U!TA#E#I#O#U!U!WA#O!YA#O#UtMIDDLE DOTtSEMI-VOICED SOUND MARKtVOICED SOUND MARKs-HIRAGANA PROLONGED SOUND MARKkLEFT CORNER BRACKEToWARDS ARROWkRIGHT CORNER BRACKETpWARDS ARROWkUPWARDS ARROWkWHITE CIRCLEcMBURGERdMERg AND PICKlSICKLElWRENCHdSAeTER FACEcND WITH INDEX AND MIDDLE FINGERS CROSSEDqFINGER AND THUMB CROSSEDeBAGgLLeSHAKEdGUL CHOSEONG CEONGCHIEUMCHIEUCH$IEUC#SIOS$SANGCIEUC)SIOSrHIEUCHx-HIEUHyKHIEUKHtTUEUMCHIEUCHzIEUCySIOSzSANGCIEUC%SIOSrIEUCv-IEUNGqFILLERqHIEUHv-SIOSqIEUNGv-CHIEUCHxIEUCwHIEUHwKIYEOKwMIEUMwPANSIOSxHIEUPHxIEUPwRIEULwSIOSwTHIEUTHxIKEUTqKAPYEOUNMIEUMyPHIEUPHzIEUPyRIEULySSANGPIEUPrHIEUKHrIYEO",
    "Kw-TIKEUTqMIEUMv-KIYEOKwPIEUPwSIOSwTIKEUTqNIEUNv-CIEUCwHIEUHwKIYEOKwPIEUPwSIOSwTIKEUTqPANSIOSrHIEUPHx-HIEUHyPIEUPrIEUPv-CHIEUCHxIEUCwHIEUHwKHIEUKHxIYEOKwNIEUNwPHIEUPHwSIOS!-CIEUC#KIYEOK#PIEUP#THIEUTH$IKEUTxSANGSIOSwTHIEUTHxIKEUTqRIEULv-CIEUCwHIEUHwKAPYEOUNPIEUPxHIEUKHxIYEOKwMIEUMwNIEUNwPIEUPwSIOSxSANGKIYEOK#PIEUP#TIKEUTwTIKEUTqSIOSu-CHIEUCHwIEUCvHIEUHvIEUNGvKHIEUKHwIYEOKvMIEUMvNIEUNvPHIEUPHwIEUP!-KIYEOKvRIEULvSSANGSIOSvTHIEUTHwIKEUTrSANGCIEUC!-HIEUHvHIEUHvIEUNGvKIYEOKvNIEUNvPIEUPvRIEULvSIOSz-PIEUPvTHIEUTHwIKEUTvYEORINHIEUHqTHIEUTHrIKEUTw-CIEUCxKIYEOKxMIEUMxPIEUPxRIEULxSIOSqYEORINHIEUHsSIEUNGhDOUBLE DOT TONE MARKhFILLERhJONGSEONG CHIEUCHsIEUCw-PIEUPxSSANGPIEUPrHIEUHw-MIEUMxNIEUNxPIEUPxRIEULrIEUNGw-KHIEUKHyIYEOKxSSANGKIYEOKrKAPYEOUNMIEUMzPHIEUPH!IEUPzRIEULsHIEUKHsIYEOKx-CHIEUCHyHIEUHyKHIEUKHyNIEUNyPIEUPyRIEULySIOS$-KIYEOKrMIEUMw-CHIEUCHyIEUCxHIEUHxKIYEOKxNIEUNxPANSIOSyIEUP$-SIOSxRIEULxSIOSySANGNIEUN$SIOSrNIEUNw-CHIEUCHyIEUCxHIEUHxKIYEOKxPANSIOSxRIEULxSIOSxTHIEUTHyIKEUTrPANSIOSy-KAPYEOUNP",
    "IEUPzPIEUPsHIEUPHy-PIEUPzSIOSzTHIEUTHsIEUPw-CHIEUCHyIEUCxHIEUHxMIEUMxPHIEUPHxRIEUL$-PHIEUPHxSIOS#-TIKEUTxTIKEUTrRIEULw-HIEUHxKAPYEOUNPIEUPyHIEUKHyIYEOK%-HIEUH&SIOSxMIEUM$-HIEUH%KIYEOK%SIOSxNIEUNxPANSIOSyHIEUPHyIEUP$-HIEUH%PHIEUPH%SIOS%TIKEUTxSIOSySANGKIYEOK$SIOSxTHIEUTHyIKEUT%-HIEUHxYEORINHIEUH+-HIEUHzSIEUNGrSIOSv-CHIEUCHxIEUCwHIEUHwKAPYEOUNPIEUPxIYEOKwMIEUMwPANSIOSxIEUPwRIEULwTHIEUTHxIKEUTsSANGCIEUCwIEUNGwKIYEOKwMIEUMwNIEUNwPIEUPwRIEUL#-KHIEUKHwSIOS!-KIYEOK#TIKEUTwTIKEUT$-PIEUPwYESIEUNGrTHIEUTHsIKEUTx-CHIEUCHzIEUCyKIYEOKyPIEUPyRIEULySIOS$-KIYEOKyTHIEUTHrYEORINHIEUHtSIEUNGz-HIEUH!KHIEUKH#IYEOK!MIEUM!PANSIOS!SIOS#SANGKIYEOKiUNGSEONG As-EUtOtUsEsRAEAw-AxEyOxIxUrEsOt-EUuOuUsUt-AuEvOvUuOuUrFILLERrIs-AuRAEAtEUtItOu-ItUtYAv-OvEuEvOuOuUrOs-EuOtOu-ItUtYAvEuEvOsErSSANGARAEArUs-AuEtEO-EUtI-ItUtYEvOrWAtEsEtOsIrYAt-OuUuYOtEsEtOu-OvUvYAsIt-UsOt-AvEuEOuIuOuYAwEvEOsUt-AvEuEvOuIuOuUuYEwOhLETTER ApEpRAEAtEoCHIEUCHpIEUCoEpOpUoHIEUHoIpEUNGoKAPYEOUNMIEUMwPHIEUPHxIEUPwSSANGPIEUPpHIEUKHpIYEOKu-SIOSoMIEUMt-P",
    "ANSIOSvIEUPuSIOSoNIEUNt-CIEUCuHIEUHuPANSIOSuSIOSuTIKEUToOpEoPANSIOSpHIEUPHpIEUPt-CIEUCuKIYEOKuSIOSy-KIYEOKzTIKEUTuTHIEUTHvIKEUToRIEULt-HIEUHuKIYEOK!-SIOSuMIEUMuPANSIOSvHIEUPHvIEUPz-SIOSuSIOSuTHIEUTHvIKEUTuYEORINHIEUHoSIOSs-CIEUCtKIYEOKtNIEUNtPIEUPtTIKEUTpSANGCIEUCtHIEUHtIEUNGtKIYEOKtNIEUNtPIEUPtSIOStTIKEUToTHIEUTHpIKEUToUoWAqEpEqOpIoYAqEpEqOrRINHIEUHqSIEUNGw-PANSIOSxSIOSpIpOq-IrYAtEpUq-IrYEtOhSINGLE DOT TONE MARKeZHOU NUMERAL EIGHTrFIVEsOURrNINErONErSEVENsIXrTENsHIRTYtREEsWENTYtOdIFI ROHINGYA DIGIT EIGHTwFIVExOURwNINEwONEwSEVENxIXwTHREExWOwZEROqLETTER AxBAxCAxDAyDAxFAxGAxHAxJAxKAyHAyINNA WA%YAxLAxMAxNAyGAyYAxPAxRAyRAxSAyHAxTAyTAxVAxWAxYAxZAqMARK NA KHONNAvSAKINqSIGN HARBAHAYvTAHALAxNAxSSIqVOWEL AwEwIwOwUdUNOO LETTER ApBApDApGApHApIpKApLApMApNAqGApPApRApSApTApUpWApYAiSIGN PAMUDPODiVOWEL SIGN ItUcPPY PERSON RAISING ONE HANDcRD DISKcTCHING CHICKdRAN LETTER ALEPHpYNoBETHoDALETH-RESHoGIMELoHEqTHoKAPHoLAMEDHoMEMoNUNoPEoQOPHoSADHEqMEKHpHINoTAWpETHoWAWoYODHoZAYNhNUMBER FIVEoONEr HUNDREDoTENpWE",
    "NTYbEADPHONEeSTONEj GRAVEYARD SYMBOLdR-NO-EVIL MONKEYeT DECORATIONgHANDSgWITH ARROWlRIBBONlTIP ON THE LEFTdVY AMPERSAND ORNAMENThRROW SHAFT WIDTH ONE# HALF$THIRDyTWO THIRDShSTERISKgBALLOT XhLACK CURVED DOWNWARDS AND RIGHTWARDS ARROWtUPWARDS AND RIGHTWARDS ARROWmHEARTl-FEATHERED NORTH EAST ARROWwRIGHTWARDS ARROWwSOUTH EAST ARROWgCHECK MARKjVRON SNOWFLAKEhIRCLEm WITH CIRCLE INSIDEsSTROKE AND TWO DOTS ABOVEmD SALTIREhONCAVE-POINTED BLACK RIGHTWARDS ARROWgDASHED TRIANGLE-HEADED RIGHTWARDS ARROWhIVISION SIGNhOLLAR SIGNiUBLE COMMA QUOTATION MARK ORNAMENTnTURNED COMMA QUOTATION MARK ORNAMENTiWNWARDS ARROW WITH EQUILATERAL ARROWHEAD#LARGE EQUILATERAL ARROWHEADgEIGHT POINTED BLACK STARuPINWHEEL STARuRECTILINEAR BLACK STARmSPOKED ASTERISKmTEARDROP-SPOKED PROPELLER ASTERISKhQUALS SIGNhXCLAMATION MARK ORNAMENTxSYMBOLgFIVE POINTED BLACK STARlSPOKED ASTERISKhOUR BALLOON-SPOKED ASTERISKgGREEK CROSSgHEART EXCLAMATION MARK ORNAMENThORIZONTAL FILLgINTERROBANG ORNAMENTgLARGE CIRCLEiTIN CROSShEFT-POINTING",
    " ANGLE BRACKET ORNAMENT!QUOTATION MARK ORNAMENTkWARDS ARROW WITH EQUILATERAL ARROWHEAD#LARGE EQUILATERAL ARROWHEADhIGATURE OPEN ET ORNAMENThOW DOUBLE COMMA QUOTATION MARK ORNAMENTkSINGLE COMMA QUOTATION MARK ORNAMENTjER RIGHT-SHADOWED WHITE RIGHTWARDS ARROWgMINUS SIGNhULTIPLICATION XgNORTH EAST ARROWrPOINTING BUD!VINE LEAFmWEST POINTING BUD!VINE LEAFgOPEN CENTRE CROSShUTLINED BLACK STARhVAL WITH OVAL INSIDEgPLUS SIGNgRIGHT-POINTING ANGLE BRACKET ORNAMENT#QUOTATION MARK ORNAMENTlWARDS ARROWw WITH EQUILATERAL ARROWHEAD$LARGE EQUILATERAL ARROWHEADhOUND-TIPPED RIGHTWARDS ARROWgSALTIREiNS-SERIF INTERROBANG ORNAMENThCRIPT LIGATURE ET ORNAMENThINGLE COMMA QUOTATION MARK ORNAMENTnTURNED COMMA QUOTATION MARK ORNAMENTiX POINTED BLACK STARkSPOKED ASTERISKhOUTH EAST ARROWrPOINTING BUD!VINE LEAFmWEST POINTING BUD!VINE LEAFhPARKLEgTEARDROP-SHANKED RIGHTWARDS ARROWqPOKED ASTERISKwPINWHEEL ASTERISKhRIANGLE-HEADED RIGHTWARDS ARROWhWELVE POINTED BLACK STARvPINWHEEL STARgUPPER RIGHT-SHADOWED WHITE RIGHTW",
    "ARDS ARROWiWARDS ARROW WITH EQUILATERAL ARROWHEADzLARGE EQUILATERAL ARROWHEADgVERTICAL BARgWEDGE-TAILED RIGHTWARDS ARROWhHITE CIRCLEmDOWN-POINTING TRIANGLEmSQUAREhIDE-HEADED RIGHTWARDS ARROWcBREW ACCENT ATNAH HAFUKHoDARGApEHIoETNAHTAoGERESHu MUQDAMrSHAYIMoILUYoMAHAPAKHpERKHAu KEFULApUNAHoOLEoPASHTAqZERoQADMAqRNEY PARAoREVIAoSEGOLpHALSHELEToTELISHA GEDOLAwQETANAqVIRpIPEHAoYERAH BEN YOMOqTIVoZAQEF GADOLuQATANqRQApINORhLETTER ALEFs WITH MAPIQyPATAHyQAMATSqTERNATIVE AYIN!PLUS SIGNpYINoBETr WITH DAGESHxRAFEoDALETt WITH DAGESHoFINAL KAFx WITH DAGESHuMEMuNUNuPEw WITH DAGESHuTSADIoGIMELt WITH DAGESHoHEq WITH MAPIQqToKAFr WITH DAGESHxRAFEoLAMEDt WITH DAGESHoMEMr WITH DAGESHoNUNr WITH DAGESHoPEq WITH DAGESHwRAFEoQOFr WITH DAGESHoRESHs WITH DAGESHoSAMEKHu WITH DAGESHpHINs WITH DAGESH& AND SHIN DOT.IN DOTySHIN DOTzIN DOToTAVr WITH DAGESHpETr WITH DAGESHpSADIt WITH DAGESHoVAVr WITH DAGESHxHOLAMoWIDE ALEFtDALETtFINAL MEMtHEtKAFtLAMEDtRESHtTAVoYODr WITH DAGESHxHIRIQoZAYINt WITH DAGESHiIGATURE ALEF LA",
    "MEDqYIDDISH DOUBLE VAV(YODyVAV YODyYOD YOD PATAHhMARK LOWER DOTmMASORA CIRCLEmUPPER DOThPOINT DAGESH OR MAPIQnHATAF PATAHtQAMATStSEGOLoIRIQoOLAMs HASER FOR VAVnJUDEO-SPANISH VARIKAnMETEGnPATAHnQAMATSt QATANoUBUTSnRAFEnSEGOLoHEVApIN DOToIN DOTnTSEREiUNCTUATION GERESHwSHAYIMtMAQAFtNUN HAFUKHAtPASEQtSOF PASUQhYOD TRIANGLEcDGEHOGcLICOPTERdLSCHREIBER PAUSE SYMBOLdM SYMBOLeET WITH WHITE CROSScNTAIGANA LETTER A-1u2u3uWOsE-1u2u3u4u5u6sHA-1w0w1v2v3v4v5v6v7v8v9tE-1v2v3v4v5v6v7tI-1v2v3v4v5v6v7tO-1v2v3v4v5v6v7v8tU-1v2v3sI-1u2u3u4sKA-1w0w1v2v3v4v5v6v7v8v9vKEtE-1v2v3v4v5v6tI-1v2v3v4v5v6v7v8tO-1v2v3vKItU-1v2v3v4v5v6v7sMA-1v2v3v4v5v6v7tE-1v2vMAtI-1v2v3v4v5v6v7tO-1v2v3v4v5v6tU-1v2v3v4sN-MU-MO-1!2tA-1v2v3v4v5v6v7v8v9tE-1v2v3v4v5v6vKOtI-1v2v3v4v5v6v7vTEtO-1v2v3v4v5tU-1v2v3sO-1u2u3sRA-1v2v3v4tE-1v2v3v4tI-1v2v3v4v5v6v7tO-1v2v3v4v5v6tU-1v2v3v4v5v6sSA-1v2v3v4v5v6v7v8tE-1v2v3v4v5tI-1v2v3v4v5v6tO-1v2v3v4v5v6v7tU-1v2v3v4v5v6v7v8sTA-1v2v3v4tE-1v2v3v4v5v6v7v8v9tI-1v2v3v4v5v6v7tO-1v2v3v4v5v6vRAtU-1v2v3v4vTOsU-1u2u",
    "3u4u5sWA-1v2v3v4v5tE-1v2v3v4tI-1v2v3v4v5tO-1v2v3v4v5v6v7sYA-1v2v3v4v5vYOtO-1v2v3v4v5v6tU-1v2v3v4cRBdMITIAN CONJUGATE MATRIXcXAGRAM FOR ABUNDANCEoFTER COMPLETIONoPPROACHnBEFORE COMPLETIONoITING THROUGHoREAKTHROUGHnCOMING TO MEETpNFLICTqTEMPLATIONnDARKENING OF THE LIGHToECREASEpLIVERANCEpVELOPMENToIFFICULTY AT THE BEGINNINGpSPERSIONoURATIONnENTHUSIASMnFELLOWSHIPoOLLOWINGnGATHERING TOGETHERoRACEpEAT POSSESSIONvWERuREPONDERANCEtTAMINGnHOLDING TOGETHERnINCREASEpFLUENCEpNER TRUTHqOCENCEnLIMITATIONnMODESTYpUTH CORNERSnOBSTRUCTIONoPPOSITIONqRESSIONnPEACEoROGRESSoUSHING UPWARDnRETREATqURNpVOLUTIONnSMALL PREPONDERANCEtTAMINGoPLITTING APARToTANDSTILLnTHE ABYSMAL WATERsRMYtOUSING THUNDERrCAULDRONsLINGING FIREsREATIVE HEAVENrFAMILYrGENTLE WINDrJOYOUS LAKErKEEPING STILL MOUNTAINrMARRYING MAIDENrRECEPTIVE EARTHrWANDERERsELLoREADINGnWAITINGoORK ON THE DECAYEDnYOUTHFUL FOLLYbIBISCUScGH BRIGHTNESS SYMBOLfOCTET PRESETfVOLTAGE SIGNe-HEELED SHOEfSPEED TRAINq WITH BULLET NOSEcKING BOOTcNDU TEMPLEcPPOPOTAMUS",
    "cRAGANA DIGRAPH YORIjITERATION MARKjLETTER ArRCHAIC WUyYEqBArErIrOrUqDArErIrOrUqEqGArErIrOrUqHArErIrOrUqIqKArErIrOrUqMArErIrOrUqNrArErIrOrUqOqPArErIrOrUqRArErIrOrUqSArErIrMALL AwEwIwKAxEwOwTUwUwWAxExIxOwYAxOxUrOrUqTArErIrOrUqUqVUqWArErIrOqYArOrUqZArErIrOrUjVOICED ITERATION MARKcSTORIC SITEbOCHOcLEdLOW QUILT SQUARE ORNAMENT$ IN BLACK SQUAREcMOTHETICcNEY POTfBEEcOKcPcRIZONTAL BARmLACK HEXAGONrOCTAGONlELLIPSISlLINE EXTENSIONlMALE WITH STROKE SIGNlONE EIGHTH BLOCK-1358$2$3$4$5$6$7lSCAN LINE-1v3v7v9lTAB KEYoULATIONv SETwWITH JUSTIFICATIONmRAFFIC LIGHTdSEf FACEgRACINGcSPITALcT BEVERAGEeDOGePEPPEReSPRINGSdELcURGLASSj WITH FLOWING SANDdSEf BUILDINGoSgWITH GARDENbRYVNIA SIGNbTcJcSbUGGING FACEcNDRED POINTS SYMBOLcSHED FACEcTbYGIEAcPHENg BULLEThWITH DIAERESISg-MINUSgATION POINTdODIASTOLEcSTERESIS SYMBOLaI LOVE YOU HAND SIGNbCE CREAMfUBEeHOCKEY STICK AND PUCKeSKATEbDENTICAL TOm AND SLANTED PARALLELkWITH DOT ABOVEgFICATION CARDdOGRAPHIC ANNOTATION BOTTOM MARKxEARTH MARKxFIRST MARKyOUR MARK#TH MARKx",
    "HEAVEN MARKxLINKING MARKxMAN MARKyIDDLE MARKxONE MARKxREVERSE MARKxSECOND MARKxTHIRD MARKzREE MARKyOP MARKyWO MARKmCLOSING MARKnOMMAmDEPARTING TONE MARKoSCRIPTION CHARACTER ABOVE TO BELOW@MIDDLE AND BELOW+FULL SURROUND+LEFT TO MIDDLE AND RIGHT?RIGHT+OVERLAID+SURROUND FROM ABOVE|BELOW|LEFT~OWER LEFT|UPPER LEFT~PPER RIGHTmENTERING TONE MARKmFULL STOPmHALF FILL SPACEmITERATION MARKmLEVEL TONE MARKmNUMBER ZEROmRISING TONE MARKmSPACEmTALLY MARK FIVEyOURxONExTHREEyWOnELEGRAPH LINE FEED SEPARATOR SYMBOLwSYMBOL FOR APRIL+UGUST*DAY EIGHT?EEN;LEVEN:FIFTEEN<VE;OUR>TEEN:NINE>TEEN:ONE:SEVEN?TEEN;IX=TEEN:TEN;HIRTEEN?Y@-ONE<REE;WELVE=NTY@-EIGHT[FIVE]OUR[NINE[ONE[SEVEN]IX[THREE]WO<O+ECEMBER*FEBRUARY*HOUR EIGHT@EEN<LEVEN;FIFTEEN=VE<OUR?TEEN;NINE?TEEN;ONE;SEVEN@TEEN<IX>TEEN;TEN<HIRTEEN=REE<WELVE>NTY[-FOUR]ONE]THREE^WO=O;ZERO*JANUARY+ULY,NE*MARCH,Y*NOVEMBER*OCTOBER*SEPTEMBERmVARIATION INDICATORbMAGE OFi OR APPROXIMATELY EQUAL TOcPdERIAL ARAMAIC LETTER ALEPHzYINyBETHyDALETHyGIMELyHE!THyKAPHyLAMEDHyMEMyNUN",
    "yPEyQOPHyRESHySADHE!MEKHzHINyTAWzETHyWAWyYODHyZAYINrNUMBER ONE# HUNDRED$THOUSANDyTEN# THOUSANDzHREEzWENTY!OrSECTION SIGNbNBOX TRAYcCOMING ENVELOPEfPLETE INFINITYdREASE FONT SIZE SYMBOLiS ASfMENTcDdEXf POINTING AT THE VIEWERdIAN RUPEE SIGNeC SIYAQ ALTERNATE LAKH MARKmFRACTION ONE HALFzQUARTERvTHREE QUARTERSmLAKH MARKmNUMBER ALTERNATE ONE%TEN THOUSAND&WOtEIGHTy HUNDREDzTHOUSANDyYz THOUSANDtFIFTYy THOUSANDvVEx HUNDREDyTHOUSANDuORTYy THOUSANDvURx HUNDREDyTHOUSANDtKARORyANtLAKHxANtNINEx HUNDREDyTHOUSANDxTYz THOUSANDtONEw HUNDREDxTHOUSANDtPREFIXED EIGHT$FIVE%OUR$NINE$ONE$SEVEN%IX$THREE%WOtSEVENy HUNDREDzTHOUSANDyTY! THOUSANDuIXw HUNDREDxTHOUSANDwTYy THOUSANDtTENw THOUSANDuHIRTYz THOUSANDvREEy HUNDREDzTHOUSANDuWENTYz THOUSANDvOw HUNDREDxTHOUSANDmPLACEHOLDERmRUPEE MARKcFINITYi NEGATED WITH VERTICAL BARdORMATION DESK PERSONmSEPARATOR FOURwONEwTHREExWOnOURCEcHIBIT ARABIC FORM SHAPINGiSYMMETRIC SWAPPINGcPUT SYMBOL FOR LATIN CAPITAL LETTERSxLETTERSxSMALL LETTERSrNUMBERSrSYMBOLScSCRIPTIONAL PAHLAVI",
    " LETTER ALEPH%BETH%DALETH%GIMEL%HE(TH%KAPH%LAMEDH%MEM-QOPH%NUN%PE%SADHE(MEKH&HIN%TAW&ETH%WAW-AYIN-RESH%YODH%ZAYINwNUMBER FOUR%ONE) HUNDRED*THOUSAND%TEN&HREE&WENTY(OqRTHIAN LETTER ALEPH(YIN&BETH&DALETH&GIMEL&HE)TH&KAPH&LAMEDH&MEM&NUN&PE&QOPH&RESH&SADHE)MEKH(HIN&TAW(ETH&WAW&YODH&ZAYINxNUMBER FOUR&ONE* HUNDRED+THOUSAND&TEN(HREE(WENTY)OdERTION SYMBOLcTEGRALi AROUND A POINT OPERATORkVERAGE WITH SLASHjEXTENSIONjWITH DOUBLE STROKEoINTERSECTIONoLEFTWARDS ARROW WITH HOOKoOVERBARoTIMES SIGNoUNDERBARqIONeRCALATEfIOR PRODUCTfLINEAR ANNOTATION ANCHORxSEPARATORxTERMINATORgOCKED FEMALE AND MALE SIGNfROBANGfSECTIONm ABOVE BAR ABOVE UNIONtUNIONnBESIDE AND JOINED WITH INTERSECTIONnWITH DOTsLOGICAL ANDsOVERBARcVERSE BULLETiCHECK MARKnER BOARD FILLiDOWNWARDS ARROW WITH TIP LEFTWARDSiMEDIUM SHADEiWHITE CIRCLEfTED EXCLAMATION MARKjINTERROBANGjLAZY SkOW KAVYKAt WITH KAVYKA ABOVEjOHM SIGNjPENTAGRAMjQUESTION MARKjUNDERTIEdISIBLE PLUSkSEPARATORkTIMESbZAKAYA LANTERNaJACK-O-LANTERNcPANESE BANK SYMBOLjCASTLEjDOLLS",
    "jGOBLINjINDUSTRIAL STANDARD SYMBOLjOGREjPOST OFFICEjSYMBOL FOR BEGINNERcRcVANESE CONSONANT SIGN CAKRAyKERETyPENGKALjDIGIT EIGHTpFIVEqOURpNINEpONEpSEVENqIXpTHREEqWOpZEROjLEFT RERENGGANlTTER ArIqBAs MURDAqCAs MURDAqDAs MAHAPRANArDAt MAHAPRANAqEqGAs MURDAqHAqIr KAWIrIqJAs MAHAPRANAqKAs MURDAtSASAKqLAqMAqNAs MURDArGAt LELETz RASWADIrYAt MURDAqOqPAs CEREKtMURDAqRAs AGUNGqSAs MAHAPRANAuURDAqTAs MURDArTAt MAHAPRANAqUqWAqYAjPADA ADEGs ADEGpNDAPoISEN-ISENoLINGSApUHURqNGSIoMADYAoPANGKATpISELEHoTIRTA TUMETESoWINDUlNGKONnRANGKEPjRIGHT RERENGGANjSIGN CECAKt TELUoLAYARoPANYANGGAoWIGNYANjTURNED PADA PISELEHjVOWEL SIGN DIRGA MUREuPEPETuSUKUy MENDUTuTALINGwRUNGvOLONGuWULUy MELIKbEANSbIGSAW PUZZLE PIECEbOINcYSTICKbUGGLINGcNOcPITERaKAABAcITHI ABBREVIATION SIGNhDANDAiOUBLE DANDAoSECTION MARKhENUMERATION SIGNhLETTER ApApIpUoBApHAoCApHAoDApDAqDHAqHApHAoEoGApHAoHAoIpIoJApHAoKApHAoLAoMAoNApGApNApYAoOoPApHAoRApHAoSApHApSAoTApHApTAqHAoUpUoVAoYAhNUMBER SIGNs ABOVEhSECTION MARKiIGN ANUSVARAmCANDRABINDUmNUKTAmVIRA",
    "MAoSARGAhVOWEL SIGN AAtItUsEsItIsOsUtUsVOCALIC RcNGAROOeXI RADICAL AGAINqNDqRRIVEsOWqXEpBADGERrMBOOqEANqIGrRDrTTERqLACKrOODrUEqOATrDYrLT OF CLOTHrNErWqRANCHrISTLErUSHpCARTrULDRONrVEqHILDqITYqLANsWrIFFrOTHESqOLORrMPARErRPSErVERrWpDEATHrERqIPPERrSHsTINGUISHrVINATIONqO NOTrGrORrTsTED CLIFFwTENTrUBLE XrWN BOXqRAGONrUMrYpEARsTHrTqIGHTqMBROIDERYqNCLOSURErTERqVENtINGqYEpFACErNGrTHERqEATHERqIELDrGHTrRErSHqLUTErYqOOTqRAGRANTrOGqURpGATEqHOSTqOr SLOWLYrLDqRAINsSSpHAIRrLBERDsF TREE TRUNKrNDqEADsRTrMPqIDING ENCLOSUREqOOKrRNsSEpICEqNCHrSECTpJADErRpKNIFEpLACKrMEqEAFsTHERrEKrGSqIDrFErNEqONGt STRIDEpMANqEATrLONqILLETrNISTERqOONrRNINGsTARrUNDtTAINsTHpNETqOSErTpOLDqNEsSELFqPEN BOXrPOSEpPIGqLOWqOWERqRIVATErOFOUNDpRAINrPrTqEDqICErGHT OPEN BOXrVERqOOFqUNpSACRIFICIAL WINErLTrYqCHOLARrRIPTqEALrCONDrErLFqHEEPsLLrOOTsRT TAILED BIRDwHREADqICKNESSrLKqKINqLASHsVErICEqMALLqNOUTqOUNDqPEARsECHrIRITrOONrROUTqQUAREqTANDrEAMsPrONEsPtPINGqUNqWEETpTABLErLLrNNED LEATHERqENqIGERrLEqONGUErOTHqRACKrEErIPODqURBANsTLEqWOs HANDS",
    "pUSEpVALLEYqILLAGEpWALKt ENCLOSURErTERqEAPONrSTqHEATrITEqINDsEqOMANrRKqRAPrONGpYELLOWdNADA AI LENGTH MARKiDIGIT EIGHToFIVEpOURoNINEoONEoSEVENpIXoTHREEpWOoZEROiLENGTH MARKkTTER AqAqIqUpBAqHApCAqHApDAqDArHAqHApEqEpFApGAqHApHApIqIpJAqHApKAqHApLAqLArLApMApNArKAARA POLLUqGAqNAqYApOqOpPAqHApRAqRApSAqHAqSApTAqHAqTArHApUqUpVAqOCALIC LyLxRyRpYAiSIGN ANUSVARAoVAGRAHAnCANDRABINDUnJIHVAMULIYAnNUKTAnSIDDHAMoPACING CANDRABINDUnUPADHMANIYAnVIRAMApSARGAiVOWEL SIGN AAuIuUtEuEtIuItOuOtUuUtVOCALIC L$L#R$RcTAKANA DIGRAPH KOTOjITERATION MARKjLETTER ArRCHAIC EyWUyYEzIqBArErIrOrUqDArErIrOrUqEqGArErIrOrUqHArErIrOrUqIqKArErIrOrUqMArErIsNNAN NASALIZED TONE-1;2;3;4;5;7;8xTONE-2$3$4$5$7$8rOrUqNrArErIrOrUqOqPArErIrOrUqRArErIrOrUqSArErIrMALL AwEwHAxExIxOxUwIwKAxExUwMUwNxUwOwRAxExIxOxUwSIxUwTOxUwUwWAxExIxOwYAxOxUrOrUqTArErIrOrUqUqVArErIrOrUqWArErIrOqYArOrUqZArErIrOrUjMIDDLE DOTjVOICED ITERATION MARKi-HIRAGANA DOUBLE HYPHENsPROLONGED SOUND MARKsSEMI-VOICED SOUND MARKsVOICED SOUND MARKcYAH LI DIGIT EIGHTpFIVEqOURpNINE",
    "pONEpSEVENqIXpTHREEqWOpZEROjLETTER AqBAqCAqDAqGAqHArTAqIqKArHAqLAqMAqNArGArYAqOErOqPArHAqRAqSArHAqTArHAqVAqWAqYAqZAjSIGN CWIoSHYAjTONE CALYAt PLOPHUoPLOPHUjVOWEL EqEpOpUqEbELVIN SIGNcYdBOARDi AND MOUSEdCAP TENbHAROSHTHI DIGIT FOURrONErTHREEsWOlFRACTION ONE HALFlLETTER AsBAtHAsCAtHAsDAtDAuHAtHAsGAtHAsHAsJAsKAtHAtKAsLAsMAsNAtNAtYAsPAtHAsRAsSAtHAtSAsTAtHAtTAuHAuTAvHAsVAtHAsYAsZAlNUMBER ONE HUNDREDwTHOUSANDsTENtWENTYlPUNCTUATION CIRCLEyRESCENT BARxDANDAyOTzUBLE DANDAxLINESyOTUSxMANGALAMxSMALL CIRCLElSIGN ANUSVARAqBAR ABOVEqCAUDAqDOT BELOWsUBLE RING BELOWqVISARGAlVIRAMAmOWEL LENGTH MARKrSIGN EwIwOwUwVOCALIC RcITAN SMALL SCRIPT CHARACTER-18B00+1+2+3+4+5+6+7+8+9+A+B+C+D+E+F*10+1+2+3+4+5+6+7+8+9+A+B+C+D+E+F*20+1+2+3+4+5+6+7+8+9+A+B+C+D+E+F*30+1+2+3+4+5+6+7+8+9+A+B+C+D+E+F*40+1+2+3+4+5+6+7+8+9+A+B+C+D+E+F*50+1+2+3+4+5+6+7+8+9+A+B+C+D+E+F*60+1+2+3+4+5+6+7+8+9+A+B+C+D+E+F*70+1+2+3+4+5+6+7+8+9+A+B+C+D+E+F*80+1+2+3+4+5+6+7+8+9+A+B+C+D+E+F*90+1+2+3+4+5+6+7+8+9+A+B+C+D+E+F*A0+1+2+3+4+5+6+7+8+9+A+B+C+",
    "D+E+F*B0+1+2+3+4+5+6+7+8+9+A+B+C+D+E+F*C0+1+2+3+4+5+6+7+8+9+A+B+C+D+E+F*D0+1+2+3+4+5+6+7+8+9+A+B+C+D+E+F*E0+1+2+3+4+5+6+7+8+9+A+B+C+D+E+F*F0+1+2+3+4+5+6+7+8+9+A+B+C+D+E+F)C00+1+2+3+4+5+6+7+8+9+A+B+C+D+E+F*10+1+2+3+4+5+6+7+8+9+A+B+C+D+E+F*20+1+2+3+4+5+6+7+8+9+A+B+C+D+E+F*30+1+2+3+4+5+6+7+8+9+A+B+C+D+E+F*40+1+2+3+4+5+6+7+8+9+A+B+C+D+E+F*50+1+2+3+4+5+6+7+8+9+A+B+C+D+E+F*60+1+2+3+4+5+6+7+8+9+A+B+C+D+E+F*70+1+2+3+4+5+6+7+8+9+A+B+C+D+E+F*80+1+2+3+4+5+6+7+8+9+A+B+C+D+E+F*90+1+2+3+4+5+6+7+8+9+A+B+C+D+E+F*A0+1+2+3+4+5+6+7+8+9+A+B+C+D+E+F*B0+1+2+3+4+5+6+7+8+9+A+B+C+D+E+F*C0+1+2+3+4+5+6+7+8+9+A+B+C+D+E+F*D0+1+2+3+4+5uFILLERcMER CURRENCY SYMBOL RIELgDIGIT EIGHTmFIVEnOURmNINEmONEmSEVENnIXmTHREEnWOmZEROgINDEPENDENT VOWEL LY!YyQAA!I!Q!UzEzI!IzOO TYPE ONE*TWOzU!K!U#VyRY!YgLETTER BAnCAoHApOoOnDAoOnHAnKAoHApOoOnLAoOnMOnNGOoNOoOoYOnPHApOoOnQAnROnSAoHAoSOnTAoHApOoOoTHAqOnVOnYOgSIGN AHSDAmTTHACANmVAKRAHASANYAlBANTOCnRIYOOSANnTHAMASATmEYYALlCAMNUC PII KUUHmOENGlKAKABATmHANmOOMUUTlLEK TOOlMUUSIKATOANlNIKAHIT",
    "lPHNAEK MUANlREAHMUKmOBATlSAMYOK SANNYAlTOANDAKHIATmRIISAPlVIRIAMlYUUKALEAPINTUhYMBOL BEI KOETrROCoUON KOETsROCnDAP KOETrROCq-BEI KOETvROCsUON KOETwROCrMUOY KOETwROCrPII KOETvROCsRAM KOETwROCnLEK ATTAK BEIyUONxMUOYxPIIyRAM#-BEI%UON$MUOY$PIIxSONnMUOY KOETsROCnPATHAMASAToII KOETrROCoRAM KOETsROCr-BEI KOETwROCtUON KOETxROCsMUOY KOETxROCsPII KOETwROCnTUTEYASATgVOWEL INHERENT AAwQmSIGN AAsEsIsUrErIsEsIrOEsOrUsAsUrYsAsYcOJKI ABBREVIATION SIGNhDANDAiOUBLE DANDAoSECTION MARKhLETTER ApApIpUoBApBApHAoCApHAoDApDAqDAqHApHAoEoGApGApHAoHAoIoJApJAoKApHAoLApLAoMAoNApGApNApYAoOoPApHAoRAoSAoTApHApTAqHAoUoVAoYAhSECTION MARKiIGN ANUSVARAmNUKTAmSHADDAnUKUNmVIRAMAhVOWEL SIGN AAtItUsEsItIsOsUhWORD SEPARATORcUDAWADI DIGIT EIGHTqFIVErOURqNINEqONEqSEVENrIXqTHREErWOqZEROkLETTER AsAsIsUrBAsBAsHArCAsHArDAsDAtDAtHAsHArErGAsGAsHArHArIsIrJAsHAsJArKAsHArLArMArNAsGAsNAsYArOrPAsHArRAsRArSAsHArTAsHAsTAtHArUsUrVArYAkSIGN ANUSVARApNUKTApVIRAMAkVOWEL SIGN AAwIwUvEvIwIvOvUwUbIMONOcP SIGNcSSe MARKeING CAT FACE WITH CLOSED EYE",
    "SiFACEm WITH CLOSED EYESsSMILING EYEScTEcWIFRUITbNEELING PERSONcOTbOALAcREAN STANDARD SYMBOLbRONOSaL B BAR SYMBOLbAB COATdELcCROSSE STICK AND BALLcDDERdY BEETLEcNGUAGE TAGcO CANCELLATION MARKeDIGIT EIGHTkFIVElOURkNINEkONEkSEVENlIXkTHREElWOkZEROeELLIPSISeHO MOhNOeKO LAeLETTER BOlCOlDOlFO FAYpONoSUNGoTAMlHO SUNGoTAMlKHMU GOqNYOnO SUNGpTAMmOlLOn LINGpOOTlMOlNGOmOmYOlOlPALI BHAqCHAqDDAsHArHAqGHAqJHAqLLAqNNArYAqTTAsHAmHO SUNGpTAMmOlROlSANSKRIT SHAvSAmO SUNGoTAMlTHO SUNGpTAMmOlWOlYOeNIGGAHITAeSEMIVOWEL SIGN LOtNYOfIGN PALI VIRAMAeTONE MAI CATAWAnEKnTHOoIeVOWEL SIGN AqAqIqMqYpEqIpIqIpMAI KANuONpOpUqUpYqYcRGE BLUE CIRCLElDIAMONDlSQUAREhROWN CIRCLEmSQUAREgCIRCLEgDOWN TACKgGREEN CIRCLEmSQUAREgLEFT TRIANGLE OPERATORgONE DOT OVER TWO DOTS PUNCTUATIONkRING OVER TWO RINGS PUNCTUATIONhRANGE CIRCLEnDIAMONDnSQUAREgPURPLE CIRCLEnSQUAREgRED CIRCLEkSQUAREgTRIPLE VERTICAL BAR OPERATORhWO DOTS OVER ONE DOT PUNCTUATIONkRINGS OVER ONE RING PUNCTUATIONgUP TACKgYELLOW CIRCLEnSQUAREfR THANl OR EQUAL TOdI SIGNcST",
    " QUARTER MOONr SYMBOLsWITH FACEcTIN CAPITAL LETTER Aw WITH ACUTE$BREVE* AND ACUTE;DOT BELOW;GRAVE;HOOK ABOVE;TILDE$CARON%IRCUMFLEX; AND ACUTE@DOT BELOW@GRAVE@HOOK ABOVE@TILDE$DIAERESIS: AND MACRON%OT ABOVE: AND MACRON)BELOW&UBLE GRAVE$GRAVE$HOOK ABOVE$INVERTED BREVE$MACRON$OGONEK$RING ABOVE; AND ACUTE*BELOW$STROKE$TILDEwAwEx WITH ACUTE%MACRONwFRICAN DwLPHAwNGLICANA WwOwUwVx WITH HORIZONTAL BARwYvBw WITH DOT ABOVE)BELOW$FLOURISH$HOOK$LINE BELOW$STROKE$TOPBARwETAwROKEN LvCw WITH ACUTE$BAR$CARON%EDILLA, AND ACUTE%IRCUMFLEX$DOT ABOVE$HOOK$PALATAL HOOK$STROKEwHIwLOSED INSULAR GwONwUATRILLO& WITH COMMAvDw WITH CARON%EDILLA%IRCUMFLEX BELOW$DOT ABOVE)BELOW$HOOK$LINE BELOW$SHORT STROKE OVERLAY%MALL LETTER Z? WITH CARON%TROKE$TOPBARwZx WITH CARONvEw WITH ACUTE$BREVE$CARON%EDILLA, AND BREVE%IRCUMFLEX; AND ACUTE@DOT BELOW@GRAVE@HOOK ABOVE@TILDE<BELOW$DIAERESIS%OT ABOVE)BELOW&UBLE GRAVE$GRAVE$HOOK ABOVE$INVERTED BREVE$MACRON+ AND ACUTE<GRAVE$OGONEK$STROKE$TILDE* BELOWwGYPTOLOGICAL AIN.LEFwNGwSHwTxH",
    "wZHy REVERSEDzWITH CARONvFw WITH DOT ABOVE$HOOK$STROKEvGw WITH ACUTE$BREVE$CARON%EDILLA%IRCUMFLEX$DOT ABOVE$HOOK$MACRON$OBLIQUE STROKE$STROKEwAMMAwHAwLOTTAL A%I%STOP%UvHw WITH BREVE BELOW$CARON%EDILLA%IRCUMFLEX$DESCENDER%IAERESIS%OT ABOVE)BELOW$HOOK$STROKEwALF HwENGwWAIRvIw WITH ACUTE$BREVE$CARON%IRCUMFLEX$DIAERESIS: AND ACUTE%OT ABOVE)BELOW&UBLE GRAVE$GRAVE$HOOK ABOVE$INVERTED BREVE$MACRON$OGONEK$STROKE$TILDE* BELOWwNSULAR D%F%G%R%S%TwOTAwSvJw WITH CIRCUMFLEX%ROSSED-TAIL$STROKEvKw WITH ACUTE$CARON%EDILLA$DESCENDER%IAGONAL STROKE%OT BELOW$HOOK$LINE BELOW$OBLIQUE STROKE$STROKE+ AND DIAGONAL STROKEvLw WITH ACUTE$BAR%ELT$CARON%EDILLA%IRCUMFLEX BELOW$DOT BELOW: AND MACRON&UBLE BAR$HIGH STROKE$LINE BELOW$MIDDLE DOT,TILDE$SMALL LETTER J%TROKEwJvMw WITH ACUTE$DOT ABOVE)BELOW$HOOKwIDDLE SCOTS S#-WELSH LL+VvNw WITH ACUTE$CARON%EDILLA%IRCUMFLEX BELOW$DESCENDER%OT ABOVE)BELOW$GRAVE$LEFT HOOK%INE BELOW%ONG RIGHT LEG$OBLIQUE STROKE$SMALL LETTER J$TILDEwJvOw WITH ACUTE$BREVE$CARON%IRCUMFLEX; AND ACU",
    "TE@DOT BELOW@GRAVE@HOOK ABOVE@TILDE$DIAERESIS: AND MACRON%OT ABOVE: AND MACRON)BELOW&UBLE ACUTE,GRAVE$GRAVE$HOOK ABOVE&RN) AND ACUTE:DOT BELOW:GRAVE:HOOK ABOVE:TILDE$INVERTED BREVE$LONG STROKE OVERLAY&OP$MACRON+ AND ACUTE<GRAVE%IDDLE TILDE$OGONEK+ AND MACRON$STROKE+ AND ACUTE$TILDE* AND ACUTE;DIAERESIS;MACRONwIwLD POLISH OwMEGAwOwPEN E!OwUvPw WITH ACUTE$DOT ABOVE$FLOURISH$HOOK$SQUIRREL TAIL%TROKE+ THROUGH DESCENDERvQw WITH DIAGONAL STROKE$STROKE THROUGH DESCENDERvRw ROTUNDAxWITH ACUTE$CARON%EDILLA$DOT ABOVE)BELOW: AND MACRON&UBLE GRAVE$INVERTED BREVE$LINE BELOW$OBLIQUE STROKE$STROKE$TAILwEVERSED C WITH DOT&E&HALF H&OPEN EwUM ROTUNDAvSw WITH ACUTE* AND DOT ABOVE$CARON* AND DOT ABOVE%EDILLA%IRCUMFLEX%OMMA BELOW$DOT ABOVE)BELOW: AND DOT ABOVE$HOOK$OBLIQUE STROKE$SHORT STROKE OVERLAY%WASH TAILwALTILLOwCHWAxRIPT GwHARP SwIGMOID SwMALL CAPITAL I#Q WITH HOOK TAILvTw WITH CARON%EDILLA%IRCUMFLEX BELOW%OMMA BELOW$DIAGONAL STROKE%OT ABOVE)BELOW$HOOK$LINE BELOW$RETROFLEX HOOK$STROKEwHORN! WITH STR",
    "OKE; THROUGH DESCENDERwONE FIVE!SIX!TWOwRESILLOwURNED A%LPHA$H$INSULAR G$K$L$M$T$VwZvUw BARxWITH ACUTE$BREVE$CARON%IRCUMFLEX; BELOW$DIAERESIS: AND ACUTE?CARON?GRAVE?MACRON;BELOW%OT BELOW&UBLE ACUTE,GRAVE$GRAVE$HOOK ABOVE&RN) AND ACUTE:DOT BELOW:GRAVE:HOOK ABOVE:TILDE$INVERTED BREVE$MACRON+ AND DIAERESIS$OGONEK$RING ABOVE$STROKE$TILDE* AND ACUTE+BELOWwPSILONvVw WITH DIAGONAL STROKE%OT BELOW$HOOK$TILDEwENDwISIGOTHIC ZwOLAPUK AE%OE%UEwYvWw WITH ACUTE$CIRCUMFLEX$DIAERESIS%OT ABOVE)BELOW$GRAVE$HOOKwYNNvXw WITH DIAERESIS%OT ABOVEvYw WITH ACUTE$CIRCUMFLEX$DIAERESIS%OT ABOVE)BELOW$GRAVE$HOOK) ABOVE$LOOP$MACRON$STROKE$TILDEwOGHvZw WITH ACUTE$CARON%IRCUMFLEX$DESCENDER%OT ABOVE)BELOW$HOOK$LINE BELOW$PALATAL HOOK$STROKE%WASH TAILpIGATURE IJxOEhROSSgEPIGRAPHIC LETTER ARCHAIC MyI LONGAzNVERTED MyREVERSED F*PySIDEWAYS IgLETTER AINoLVEOLAR CLICKnBIDENTAL PERCUSSIVEpLABIAL CLICKwPERCUSSIVEnDENTAL CLICKnGLOTTAL STOPz WITH STROKEnINVERTED GLOTTAL STOP+ WITH CURL=STROKEnLATERAL CLICKnPHARYNGEAL VOICED FRI",
    "CATIVEnRETROFLEX CLICK$ WITH RETROFLEX HOOKpVERSED ESH LOOPwGLOTTAL STOP WITH STROKEnSINOLOGICAL DOToMALL CAPITAL A$E#B$ARRED B#C#D#E$TH$ZH#F#G$ WITH HOOK#H#I$NVERTED R#J#K#L$ WITH BELT+STROKE#M#N#O$E$PEN O$U#P#Q#R$ WITH RIGHT LEG$EVERSED N.R$UM#S#T$URNED E+G+K+M+R#U#V#W#Y#ZoTRETCHED Cy WITH CURLnTWO WITH STROKEnVOICED LARYNGEAL SPIRANTnWYNNnYRgSMALL CAPITAL LETTER I WITH STROKE#U WITH STROKEmLETTER Au REVERSED-SCHWAvWITH ACUTE!BREVE( AND ACUTE.DOT BELOW.GRAVE.HOOK ABOVE.TILDE!CARON#IRCUMFLEX. AND ACUTE>DOT BELOW>GRAVE>HOOK ABOVE>TILDE!DIAERESIS, AND MACRON#OT ABOVE, AND MACRON&BELOW$UBLE GRAVE!GRAVE!HOOK ABOVE!INVERTED BREVE!MACRON!OGONEK!RETROFLEX HOOK#IGHT HALF RING$NG ABOVE. AND ACUTE(BELOW!STROKE!TILDEuAuEv WITH ACUTE#MACRONuLPHAy WITH RETROFLEX HOOKuNGLICANA WuOuUuVv WITH HORIZONTAL BARuYtBu WITH DOT ABOVE&BELOW!FLOURISH!HOOK!LINE BELOW!MIDDLE TILDE!PALATAL HOOK!STROKE!TOPBARuARRED ALPHA!E!OvSELINE ESHuETAuLACKLETTER E(O) WITH STROKEuOTTOM HALF OuROKEN LtCu WITH ACUTE!BAR!CARON#E",
    "DILLA* AND ACUTE#IRCUMFLEX#URL!DOT ABOVE!HOOK!PALATAL HOOK!RETROFLEX HOOK!STROKEuHIw WITH LOW LEFT SERIF)RIGHT RINGuLOSED INSULAR G!OMEGA#PEN E!REVERSED OPEN EuONuUATRILLO$ WITH COMMAtDu WITH CARON#EDILLA#IRCUMFLEX BELOW#URL!DOT ABOVE&BELOW!HOOK& AND TAIL!LINE BELOW!MIDDLE TILDE!PALATAL HOOK!SHORT STROKE OVERLAY#TROKE!TAIL#OPBARuB DIGRAPHuELTAvZH DIGRAPH( WITH PALATAL HOOK:RETROFLEX HOOKuOTLESS I#J$ WITH STROKE= AND HOOKvUBLE R# WITH CROSSED-TAIL!THORN!WYNNuUMuZv DIGRAPH% WITH CURL,RETROFLEX HOOKwWITH CARONtEu WITH ACUTE!BREVE!CARON#EDILLA* AND BREVE#IRCUMFLEX. AND ACUTE>DOT BELOW>GRAVE>HOOK ABOVE>TILDE:BELOW!DIAERESIS#OT ABOVE&BELOW$UBLE GRAVE!FLOURISH!GRAVE!HOOK ABOVE!INVERTED BREVE!MACRON) AND ACUTE:GRAVE!NOTCH!OGONEK!RETROFLEX HOOK!STROKE!TILDE( BELOWuGYPTOLOGICAL AIN+LEFuNGw WITH CROSSED-TAIL$PALATAL HOOKuSHw WITH CURL$DOUBLE BAR; AND CURL$PALATAL HOOK$RETROFLEX HOOKuTvHuZHw REVERSEDxWITH CARON%URL$PALATAL HOOK$RETROFLEX HOOK$TAILtFu WITH DOT ABOVE!HOOK!MIDDLE TILDE!PALATAL HOOK!S",
    "TROKEuENG DIGRAPH( WITH TRILLtGu WITH ACUTE!BREVE!CARON#EDILLA#IRCUMFLEX!DOT ABOVE!HOOK!MACRON!OBLIQUE STROKE!PALATAL HOOK!STROKEuAMMAuHAuLOTTAL A#I#STOP#UtHu WITH BREVE BELOW!CARON#EDILLA#IRCUMFLEX!DESCENDER#IAERESIS#OT ABOVE&BELOW!HOOK!LINE BELOW!PALATAL HOOK!STROKEuALF HuENGx WITH HOOKuVtIu WITH ACUTE!BREVE!CARON#IRCUMFLEX!DIAERESIS, AND ACUTE#OT BELOW$UBLE GRAVE!GRAVE!HOOK ABOVE!INVERTED BREVE!MACRON!OGONEK!RETROFLEX HOOK!STROKE) AND RETROFLEX HOOK!TILDE( BELOWuNSULAR D#F#G#R#S#TvVERTED ALPHA$OEuOTAx WITH STROKEwIFIED EuStJu WITH CARON#IRCUMFLEX#ROSSED-TAIL!STROKEtKu WITH ACUTE!CARON#EDILLA!DESCENDER#IAGONAL STROKE#OT BELOW!HOOK!LINE BELOW!OBLIQUE STROKE!PALATAL HOOK!STROKE) AND DIAGONAL STROKEuRAtLu WITH ACUTE!BAR#ELT& AND PALATAL HOOK!CARON#EDILLA#IRCUMFLEX BELOW#URL!DOT BELOW, AND MACRON$UBLE BAR*MIDDLE TILDE!FISHHOOK!HIGH STROKE!INVERTED LAZY S!LINE BELOW!MIDDLE DOT*RING*TILDE!PALATAL HOOK!RETROFLEX HOOK= AND BELT!STROKEuAMBDA WITH STROKEuENIS FvZHx WITH RETROFLEX HOOKuJuONG Sz",
    " WITH DIAGONAL STROKE)OT ABOVE(HIGH STROKEuS DIGRAPHuUMuZ DIGRAPHtMu WITH ACUTE!CROSSED-TAIL!DOT ABOVE&BELOW!HOOK!MIDDLE TILDE!PALATAL HOOKuIDDLE SCOTS Sz-WELSH LL)VuUMtNu PRECEDED BY APOSTROPHEvWITH ACUTE!CARON#EDILLA#IRCUMFLEX BELOW#ROSSED-TAIL#URL!DESCENDER#OT ABOVE&BELOW!GRAVE!LEFT HOOK#INE BELOW#ONG RIGHT LEG!MIDDLE TILDE!OBLIQUE STROKE!PALATAL HOOK!RETROFLEX HOOK!TILDEuJuUMtOu WITH ACUTE!BREVE!CARON#IRCUMFLEX. AND ACUTE>DOT BELOW>GRAVE>HOOK ABOVE>TILDE!DIAERESIS, AND MACRON#OT ABOVE, AND MACRON&BELOW$UBLE ACUTE*GRAVE!GRAVE!HOOK ABOVE$RN& AND ACUTE,DOT BELOW,GRAVE,HOOK ABOVE,TILDE!INVERTED BREVE!LONG STROKE OVERLAY$OP$W RING INSIDE!MACRON) AND ACUTE:GRAVE!OGONEK) AND MACRON!RETROFLEX HOOK!STROKE) AND ACUTE!TILDE( AND ACUTE.DIAERESIS.MACRONuIuLD POLISH OuMEGAuOuPEN Ez WITH RETROFLEX HOOKyOz WITH RETROFLEX HOOK(STROKEzEuUtPu WITH ACUTE!DOT ABOVE!FLOURISH!HOOK!MIDDLE TILDE!PALATAL HOOK!SQUIRREL TAIL#TROKE) THROUGH DESCENDERuHItQu WITH DIAGONAL STROKE!HOOK& TAIL!STROKE THROUGH DESCEND",
    "ERuP DIGRAPHtRu ROTUNDAvWITH ACUTE!CARON#EDILLA#ROSSED-TAIL!DOT ABOVE&BELOW, AND MACRON$UBLE GRAVE!FISHHOOK+ AND MIDDLE TILDE<PALATAL HOOK!INVERTED BREVE!LINE BELOW#ONG LEG!MIDDLE TILDE!OBLIQUE STROKE!PALATAL HOOK!STROKE!TAILzOUT HANDLEuAMS HORNuEVERSED C% WITH DOT$E%NG$HALF H$K$OPEN E+ WITH HOOK=RETROFLEX HOOK$R WITH FISHHOOK$SCRIPT GuUMw ROTUNDAtSu WITH ACUTE( AND DOT ABOVE!CARON( AND DOT ABOVE#EDILLA#IRCUMFLEX#OMMA BELOW#URL!DOT ABOVE&BELOW, AND DOT ABOVE!HOOK!MIDDLE TILDE!OBLIQUE STROKE!PALATAL HOOK!SHORT STROKE OVERLAY#WASH TAILuAKHA YATvLTILLOuCHWAy WITH HOOK&RETROFLEX HOOKvRIPT G# WITH CROSSED-TAIL!R# WITH RINGuHARP SuIDEWAYS DIAERESIZED U$O% WITH STROKE%PEN O$TURNED M$UvGMOID SuQUAT REVERSED ESHuTIRRUP RtTu WITH CARON#EDILLA#IRCUMFLEX BELOW#OMMA BELOW#URL!DIAERESIS%GONAL STROKE#OT ABOVE&BELOW!HOOK& AND RETROFLEX HOOK!LINE BELOW!MIDDLE TILDE!PALATAL HOOK!RETROFLEX HOOK!STROKEuAILLESS PHIuC DIGRAPH WITH CURLuESH DIGRAPH( WITH PALATAL HOOK:RETROFLEX HOOKuH WITH STRIKETHROUGHvORNy ",
    "WITH STROKE. THROUGH DESCENDERuONE FIVEySIXyTWOvP HALF OuRESILLOuS DIGRAPH% WITH RETROFLEX HOOKuUMvRNED A#E#LPHA!DELTA!E!G!H# WITH FISHHOOK> AND TAIL!I#NSULAR G!K!L!M# WITH LONG LEG!O OPEN-O+ WITH STROKE#E$ WITH HORIZONTAL STROKE+STROKE#PEN E!R# WITH HOOK*LONG LEG> AND RETROFLEX HOOK*MIDDLE TILDE*PALATAL HOOK*TAIL!T# WITH CURL!UI!V!W!Y# WITH BELTuZtUu BARy WITH SHORT RIGHT LEGvWITH ACUTE!BREVE!CARON#IRCUMFLEX. BELOW!DIAERESIS, AND ACUTE=CARON=GRAVE=MACRON.BELOW#OT BELOW$UBLE ACUTE*GRAVE!GRAVE!HOOK ABOVE$RN& AND ACUTE,DOT BELOW,GRAVE,HOOK ABOVE,TILDE!INVERTED BREVE!LEFT HOOK!MACRON) AND DIAERESIS!OGONEK!RETROFLEX HOOK#ING ABOVE!SHORT RIGHT LEG#TROKE!TILDE( AND ACUTE)BELOWuEuIuMuOuPSILON! WITH STROKEtVu WITH CURL!DIAGONAL STROKE#OT BELOW!HOOK!PALATAL HOOK!RIGHT HOOK!TILDEuENDuISIGOTHIC ZuOLAPUK AE#OE#UEuYtWu WITH ACUTE!CIRCUMFLEX!DIAERESIS#OT ABOVE&BELOW!GRAVE!HOOK!RING ABOVEtXu WITH DIAERESIS#OT ABOVE!LONG LEFT LEG< AND LOW RIGHT RING=WITH SERIF$W RIGHT RING!PALATAL HOOKtYu WITH ACUTE!C",
    "IRCUMFLEX!DIAERESIS#OT ABOVE&BELOW!GRAVE!HOOK& ABOVE!LOOP!MACRON!RING ABOVE!SHORT RIGHT LEG#TROKE!TILDEuOGHtZu WITH ACUTE!CARON#IRCUMFLEX#URL!DESCENDER#OT ABOVE&BELOW!HOOK!LINE BELOW!MIDDLE TILDE!PALATAL HOOK!RETROFLEX HOOK!STROKE#WASH TAILnIGATURE FFxIxLwIwLvIJvLONG S TvOEvSThUBSCRIPT SMALL LETTER A%E%H%I%J%K%L%M%N%O%P%R%S&CHWA%T%U%V%XbEAF FLUTTERING IN WINDeY GREENcDGERcFT AND LOWER AND RIGHT TRIANGULAR THREE QUARTERS BLOCKpONE EIGHTH BLOCKjRIGHT DOUBLE TURNSTILEpTACKqRIANGULAR HALF BLOCKjUPPER AND RIGHT TRIANGULAR THREE QUARTERS BLOCKpONE EIGHTH BLOCKhGER BUBBLEiLE BRACKETs WITH DOTgRC LESS-THAN BRACKEThROW WITH CIRCLED PLUSqSMALL CIRCLEfBARB DOWN RIGHT BARB DOWN HARPOON!UP HARPOONkUP RIGHT BARB DOWN HARPOONyUP HARPOONgLACK LENTICULAR BRACKETlTORTOISE SHELL BRACKETfCEILINGgLOSED ENTRYgORNER BRACKETgURLY BRACKETs LOWER HOOKtMIDDLE PIECEtUPPER HOOKfDOTTED SUBSTITUTION BRACKEThUBLE ANGLE BRACKETmPARENTHESISmQUOTATION MARKmWIGGLY FENCEfFISH TAILhVE EIGHTHS BLOCKgLOORfHALF BLACK CIRCLEqS",
    "TARmOCKkCIRCLEq WITH DOTwFOUR DOTSwTHREE DOTSxWO DOTSkFOLDERkINVERSE MEDIUM SHADE AND RIGHT HALF BLOCKkMEDIUM SHADEkRUNNING MANhND TELEPHONE RECEIVERfLOW PARAPHRASE BRACKETgUGGAGEfMULTIMAPfNORMAL FACTOR SEMIDIRECT PRODUCTfONE EIGHTH BLOCKjQUARTER BLOCKgUTER JOINfPARENTHESISq EXTENSIONrLOWER HOOKrUPPER HOOKfRAISED OMISSION BRACKETgIGHT ARROWq THROUGH SMALL CIRCLErWITH DOUBLE VERTICAL STROKEwSTROKEwVERTICAL STROKElBLACK ARROWlDOUBLE ARROWx WITH STROKE%VERTICAL STROKElOPEN-HEADED ARROWlSANS-SERIF ARROWlTRIANGLE-HEADED ARROWlWAVE ARROWmHITE ARROWfS-SHAPED BAG DELIMITERgEMIDIRECT PRODUCThVEN EIGHTHS BLOCKgIDEWAYS U BRACKEThNGLE QUOTATION MARKgPEECH BUBBLEgQUARE BRACKETt EXTENSIONuLOWER CORNERuUPPER CORNERuWITH DOUBLE STROKEzQUILLzSTROKEzTICK IN BOTTOM CORNER*TOP CORNERzUNDERBARgUBSTITUTION BRACKETfTACKgHIRD WHITE RIGHT POINTING INDEXhOUGHT BUBBLEhREE EIGHTHS BLOCKlQUARTERS BLOCKgORTOISE SHELL BRACKETgRANSPOSITION BRACKEThIANGLE BESIDE VERTICAL BARlULAR ONE QUARTER BLOCKfVERTICAL BAR WITH QU",
    "ILLpOX LINEfWHITE CORNER BRACKETmURLY BRACKETlLENTICULAR BRACKETlPARENTHESISlSQUARE BRACKETlTORTOISE SHELL BRACKETgIGGLY FENCEgRITING HANDe-FACING ARMENIAN ETERNITY SIGNmFISTmSVASTI SIGNx WITH DOTSfHANDED INTERLACED PENTAGRAMfPOINTING ANGLE BRACKEToCURVED ANGLE BRACKEToDOUBLE ANGLE QUOTATION MARKoMAGNIFYING GLASSfSHADED WHITE RIGHTWARDS ARROWgIDE ARC ANTICLOCKWISE ARROWfTO-RIGHT EMBEDDINGoISOLATEoMARKoOVERRIDEeWARDS ARROWp ABOVE ALMOST EQUAL TOwREVERSE ALMOST EQUAL TO&TILDE OPERATORwSHORT RIGHTWARDS ARROWwTILDE OPERATORrND UPPER AND LOWER ONE EIGHTH BLOCKqFROM BARy TO BLACK DIAMONDqOVER RIGHTWARDS ARROWqTHROUGH LESS-THANySUBSETyXrO BARw OVER RIGHTWARDS ARROW TO BARuLACK DIAMONDqWITH DOTTED STEMxUBLE VERTICAL STROKEvEQUILATERAL ARROWHEADvHOOKvLARGE TRIANGLE ARROWHEADwOOPvMEDIUM TRIANGLE ARROWHEADvNOTCHED TAILvPLUS BELOWvSMALL EQUILATERAL ARROWHEAD#TRIANGLE ARROWHEADwTROKEvTAILz WITH DOUBLE VERTICAL STROKE(VERTICAL STROKEwIP DOWNWARDSzUPWARDSvVERTICAL STROKEp-TAILkBACK-TILTED SHADOWED WH",
    "ITE ARROWlLACK ARROWqCIRCLED WHITE ARROWlOTTOM-SHADED WHITE ARROWkCOMPRESSED ARROWkDASHED ARROWlOUBLE ARROWw FROM BARxWITH STROKE$VERTICAL STROKEw-TAILrDASH ARROWkFINGER-POST ARROWlRONT-TILTED SHADOWED WHITE ARROWkHANDmRPOON OVER RIGHTWARDS HARPOONsWITH BARB DOWN ABOVE RIGHTWARDS HARPOON WITH BARB DOWN*BELOW LONG DASH*FROM BAR*TO BAR)WARDS$UP ABOVE LEFTWARDS HARPOON WITH BARB DOWN;ONG DASH:RIGHTWARDS HARPOON WITH BARB UP(FROM BAR(TO BAR&WARDSlEAVY ARROWqCOMPRESSED ARROWkLEFT-SHADED WHITE ARROWkOPEN-HEADED ARROWkPAIRED ARROWSkQUADRUPLE ARROWkRIGHT-SHADED WHITE ARROWlOCKETkSANS-SERIF ARROWlQUARED ARROWnIGGLE ARROWkTOP SHADED WHITE ARROWlRIANGLE ARROWHEADs-HEADED ARROW( OVER RIGHTWARDS TRIANGLE-HEADED ARROW)TO BAR)WITH BOLD SHAFT:DOUBLE HORIZONTAL STROKE[VERTICAL STROKE:HEAVY SHAFT:LONG TIP DOWNWARDS^UPWARDS:MEDIUM SHAFT:NARROW SHAFT:VERY HEAVY SHAFT!DASHED ARROW!PAIRED ARROWSnPLE ARROWrDASH ARROWlWO HEADED ARROWn-HEADED ARROW FROM BAR#WITH DOUBLE VERTICAL STROKE)TAIL. WITH DOUBLE VERTICA",
    "L STROKE?VERTICAL STROKE*RIANGLE ARROWHEADS)VERTICAL STROKEvTRIPLE DASH ARROWkWAVE ARROWlHITE ARROWv WITHIN TRIANGLE ARROWHEADcGcMONcOdPARDcPCHA CONSONANT SIGN KxANGwLwMwNxYIN-DOwPwRwThDIGIT EIGHTnFIVEoOURnNINEnONEnSEVENoIXnTHREEoWOnZEROhLETTER AoBApLAoCApHAoDApDApZAoFApLAoGApLAoHApLAoJAoKApHApLAoLAoMApLAoNApGApYAoPApHApLAoRAoSApHAoTApHApSAqHApTAqHAoVAoWAoYAhPUNCTUATION CER-WAtNYET THYOOM TA-ROLtTA-ROLuSHOOKz CER-WAhSIGN NUKTAmRANiUBJOINED LETTER RAyYAhVOWEL SIGN AAsEsIsOtOsUtUcSS-THAN ABOVE DOUBLE-LINE EQUAL ABOVE GREATER-THANqGREATER-THAN ABOVE DOUBLE-LINE EQUALqLEFTWARDS ARROWqSIMILAR ABOVE GREATER-THANyOR EQUALrLANTED EQUAL ABOVE GREATER-THAN ABOVE SLANTED EQUALlND NOT APPROXIMATEoSINGLE-LINE NOT EQUAL TOkBUT NOT EQUAL TOvIVALENT TOkCLOSED BY CURVEz ABOVE SLANTED EQUALkEQUAL TO OR GREATER-THANkOR APPROXIMATEnEQUAL TOqIVALENT TOnGREATER-THANnSLANTED EQUAL TO% WITH DOT ABOVE[ RIGHT<INSIDElVER EQUAL TOkSIGNkWITH CIRCLE INSIDEpDOTpQUESTION MARK ABOVEcVEL SLIDERbFbIBRAcGATURE OPEN ET OR",
    "NAMENTdHT CHECK MARKgEIGHT SPOKED ASTERISKgFIVE POINTED BLACK STARlSPOKED ASTERISKhOUR POINTED BLACK CUSPzSTARgGREEK CROSSgLEFT TORTOISE SHELL BRACKET ORNAMENTgRAILhIGHT TORTOISE SHELL BRACKET ORNAMENTgSALTIREhHADEhIX SPOKED ASTERISKgTHREE POINTED BLACK STARhWELVE POINTED BLACK STARgVERTICAL BARgWHITE SQUAREfNINGj MOODo BUBBLEcMBU DIGIT EIGHTmFIVEnOURmNINEmONEmSEVENnIXmTHREEnWOmZEROgEXCLAMATION MARKgLETTER BAoHAnCAoHAnDAoHAnGAoHAoYANnHAnJAoHAnKAoHAnLAnMAnNAoGAnPAoHAnRAnSAoHAoSAnTAoHAoRAnWAnYApNgQUESTION MARKgSIGN KEMPHRENGlLOOlMUKPHRENGlSA-IhMALL LETTER ANUSVARAtKAtLAtMAtNAuGAtPAtRAtTAhUBJOINED LETTER RAxWAxYAgVOWEL SIGN AsIsUrEsErIrOsOrUl-CARRIER LETTERdITED LIABILITY SIGNcNE FEEDfINTEGRATION NOT INCLUDING THE POLErWITH RECTANGULAR PATH AROUND POLEwSEMICIRCULAR PATH AROUND POLEfSEPARATORfTABULATIONp SETeAR A SIGN A028Bp100-102q20Bq31Cp301r2r3r4r5r6r7r8r9AsBsCq10r1r2r3AsBsCr4r5r6r7r8r9q20r1r2r3r4r5r6r7r8r9q30r1r2r3r4r5r6r7r8r9q40r1r2r3r4r5r6r7r8r9q50r1r2r3r4r5r6r7r8r9q60r1r2r3r4r5r6r7r",
    "8r9q70r1p400-VASr1-VASr2-VASr3-VASr4-VASr5-VASr6-VASr7-VASr8-VASr9-VASq10-VASr1-VASr2-VASr3-VASr4-VASr5-VASr6-VASr7-VASr8-VASp501r2r3r4r5r6r8r9q10r1r2r3r5r6q20r1r3r4r5r6r7r8r9q30r1r2r4r5r6r7r8r9q40r1r2r5r7r8r9q50r1r2r3r4r5r6r7r9q63r4r5r6r8r9q70r1r2r3r4r5r6r7r8r9q80r1r2r3r4r5r6r7r8r9q91r2r4r5r6r8p600r1r2r3r4r6r8r9q10r1r2r3r4r5r6r7r8r9q20r1r2r3r4r6r7r8r9q34r7r8q40r2r3r4r5r6r8r9q51r2r3r4r5r6r7r8r9q60r1r2r3r4p701 Ar2 Br3 Dr4 Er5 Fr6 Hr7 Jr8 Kr9 Ls-2 L2t3 L3t4 L4t6 L6q10 Wr1 Xr2 Yr3 OMEGAr4 ABBr5 BBr7 DDq26 EYYYq32 JEp800r1r2r3r4r5r6r7pB001s2s3s4s5s6s7s8s9r10s1s3s6s7r20s1tFtMs2tFtMs3tMs4s6s7s8s9r30s1s4s7s8s9r40s1s4s5s6s7s8s9r50s1s3s4s5s6s7s8s9r60s1s5s6s7s9r70s3s4s6s7s8s9r80s1s2s5s6s7q118r20s2s3r31AtBr64r71r80s8r91hB IDEOGRAM B100 MANv2 WOMANv4 DEERv5 EQUIDwF MAREwM STALLIONv6F EWEwM RAMv7F SHE-GOATwM HE-GOATv8F SOWwM BOARv9F COWwM BULLu20 WHEATv1 BARLEYv2 OLIVEv3 SPICEv5 CYPERUSu30 OILv1 WINEv2u40 BRONZEv1 GOLDv2v5 WOOLv6u50v1 HORNv2v3v4v7v8v9 CLOTHu60v1v2 GARMENTv3 ARMOURv4v5v6v7v8v9u70v1v",
    "2v3 MONTHv4v6 TREEv7v8v9u80v1v2v3v4v5v9u90v1 HELMETt220 FOOTSTOOLv5 BATHTUBu30 SPEARv1 ARROWv2v3 SWORDv4v6u40 WHEELED CHARIOTv1 CHARIOTv2 CHARIOT FRAMEv3 WHEELv5v6v8v9u51v2v3v4 DARTv5v6v7v8v9sVESSEL B155!200$1$2$3$4$5$6$7$8$9#10$1$2$3$4$5$6$7$8$9#21$2$6$7$8$9#50!305jMONOGRAM B127 KAPOv8 KANAKOu33 AREPAv5 MERIu56 TURO2t247 DIPTEjSYLLABLE B001 DAv2 ROv3 PAv4 TEv5 TOv6 NAv7 DIv8 Av9 SEu10 Uv1 POv2 SOv3 MEv4 DOv5 MOv6 QAv7 ZAu20 ZOv1 QIv3 MUv4 NEv5 A2v6 RUv7 REv8 Iv9 PU2u30 NIv1 SAv2 QOv3 RA3v6 JOv7 TIv8 Ev9 PIu40 WIv1 SIv2 WOv3 A3v4 KEv5 DEv6 JEv8 NWAu50 PUv1 DUv2 NOv3 RIv4 WAv5 NUv7 JAv8 SUv9 TAu60 RAv1 Ov2 PTEv5 JUv6 TA2v7 KIv8 RO2v9 TUu70 KOv1 DWEv2 PEv3 MIv4 ZEv5 WEv6 RA2v7 KAv8 QEu80 MAv1 KUv5 AUv7 TWEu90 DWOv1 TWOlMBOL B018t9s22s34s47t9s56s63t4s79s82t3t6t9dK SYMBOLeED PAPERCLIPScON FACEcPSeTICKcRA SIGNcSU LETTER AnEmBAmCAnHAmDAnZAmEnUmFAmGAnHAmHAnHAmImJAmKAnHAmLAmMAmNAnGAmOnEmPAnHAmSAnHAmTAnHAnONE MYA BOvCYAvJEUvNAvTIrNA POnSAoHAmUnEnHmWAmXAmYAnHAmZAnHAfPUNCTUATION COMMArFULL STOPcV",
    "RE TOURNOIS SIGNcZARDbLAMAbOBSTERcCKe WITH INK PENeING-SHIFT ONEoZEROcGICAL ANDl WITH DOT ABOVEtUBLE OVERBARyUNDERBARrHORIZONTAL DASHrMIDDLE STEMrUNDERBARiORk OVERLAPPING LOGICAL ANDlWITH DOT ABOVEsUBLE OVERBARxUNDERBARqHORIZONTAL DASHqMIDDLE STEMcLLIPOPcNG DASH FROM LEFT MEMBER OF DOUBLE VERTICALgIVISIONgRUMfLEFT RIGHT ARROWqDOUBLE ARROWkTACKjWARDS ARROWu FROM BARpDOUBLE ARROW# FROM BARpSQUIGGLE ARROWfRIGHT TACKkWARDS ARROWv FROM BARqDOUBLE ARROW$ FROM BARqSQUIGGLE ARROWcTION BOTTLEdUScUDLY CRYING FACEcVE HOTELfLETTERcW ASTERISKeBATTERYfRIGHTNESS SYMBOLeDOUBLE PRIME QUOTATION MARKeKAVYKAk WITH DOTeLINEdER BLADE SCISSORSgFIVE EIGHTHS BLOCKgHALF BLOCKlCIRCLElINVERSE WHITE CIRCLElMEDIUM SHADEgLEFT BALLPOINT PENmLOCK DIAGONAL LOWER MIDDLE LEFT TO LOWER CENTRE~WER RIGHT!UPPER CENTRE TO LOWER MIDDLE RIGHT|RIGHT?UPPER MIDDLE RIGHT)LEFT TO LOWER CENTRE^MIDDLE RIGHT=UPPER MIDDLE RIGHT)MIDDLE LEFT TO LOWER CENTRE~WER MIDDLE RIGHT~WER RIGHTlCRAYONlFOUNTAIN PENlPAINTBRUSHmENCILlQUADRANT CIRCULAR ",
    "ARClSEMICIRCULAR ANTICLOCKWISE ARROWlTRIANGLErULAR MEDIUM SHADEgONE EIGHTH BLOCKkQUARTER BLOCKgRIGHT BLOCK DIAGONAL LOWER CENTRE TO LOWER MIDDLE RIGHT@UPPER MIDDLE RIGHT~RIGHT*LEFT TO LOWER MIDDLE RIGHT>UPPER CENTRE_MIDDLE RIGHT*MIDDLE LEFT TO UPPER CENTRE~PPER MIDDLE RIGHT~PPER RIGHT#UPPER MIDDLE LEFT TO UPPER CENTRE~PPER RIGHTmCORNER WITH DOTmDROP-SHADOWED WHITE SQUAREmPENCILmQUADRANT CIRCULAR ARCmSEMICIRCULAR CLOCKWISE ARROWnHADOWED WHITE CIRCLE#SQUAREmTRIANGLEsULAR MEDIUM SHADEgSEVEN EIGHTHS BLOCKgTHREE EIGHTHS BLOCKmQUARTERS BLOCKhRIANGULAR ONE QUARTER BLOCKcZENGEh DIVIDED BY HORIZONTAL RULEbREcIcMcObUGGAGEcNGSbYCIAN LETTER ApNoBpHoDoEpNoGoHoIoJoKpKoLoMpMoNpNoPoQoRoSoTpHpToUoWoXoZcDIAN LETTER ApNoBoCoDoEpNoFoGoIoKoLpYoMoNpNoOoQoRoSpSoTpToUoVoYhTRIANGULAR MARKcING FACEaMACRONcGEdIC WANDdNETcHAJANI ABBREVIATION SIGNjLETTER AqBArHAqCArHAqDArDAsHArHAqEqGArHAqHAqIqJArHAqKArHAqLAqMAqNArNArYAqOqPArHAqRArRAqSAqTArHArTAsHAqUqVAkIGATURE SHRIjSECTION MARKkIGN NUKTAdJONG TILE AUTUMNnBACKpMBOO",
    "nCHRYSANTHEMUMnEAST WINDoIGHT OF BAMBOOSwCHARACTERSxIRCLESnFIVE OF BAMBOOSvCHARACTERSwIRCLESoOUR OF BAMBOOSvCHARACTERSwIRCLESnGREEN DRAGONnJOKERnNINE OF BAMBOOSvCHARACTERSwIRCLESoORTH WINDnONE OF BAMBOOSuCHARACTERSvIRCLESoRCHIDnPLUMnRED DRAGONnSEVEN OF BAMBOOSwCHARACTERSxIRCLESoIX OF BAMBOOSuCHARACTERSvIRCLESoOUTH WINDoPRINGoUMMERnTHREE OF BAMBOOSwCHARACTERSxIRCLESoWO OF BAMBOOSuCHARACTERSvIRCLESnWEST WINDoHITE DRAGONoINTERcKASAR ANGKAiEND OF SECTIONiLETTER ApBApCApDApGApJApKApLApMApNAqGAqYApPApRApSApTApVApYAiPASSIMBANGiVOWEL SIGN EtItOtUcLAYALAM AU LENGTH MARKkDATE MARKlIGIT EIGHTqFIVErOURqNINEqONEqSEVENrIXqTHREErWOqZEROkFRACTION ONE EIGHTHxFIFTHyORTIETHxHALFxONE-HUNDRED-AND-SIXTIETHxQUARTERxSIXTEENTHxTENTHyWENTIETHtTHREE EIGHTIETHSzQUARTERSzSIXTEENTHSzTWENTIETHSkLETTER AsAsIsRCHAIC IIsUrBAsHArCAsHAtILLU KyLzL!LyMyNzNyRRyYrDAsDAtHAsHAsOT REPHrEsErGAsHArHArIsIrJAsHArKAsHArLAsLAtLArMArNAsGAsNAtNAsYArOsOrPAsHArRAsRArSAsHAsSArTAsHAsTAtHAtTArUsUrVAsEDIC ANUSVARAsOCALIC L!LzR!RrYAkNUMBER ON",
    "E HUNDREDvTHOUSANDrTENkSIGN ANUSVARAqVAGRAHApCANDRABINDUqIRCULAR VIRAMAqOMBINING ANUSVARA ABOVEpPARApVERTICAL BAR VIRAMAqIRAMArSARGAkVOWEL SIGN AAwIwUvEwEvIwIvOwOvUwUvVOCALIC L&L%R&RdE AND FEMALE SIGNfSIGNfWITH STROKE AND MALE AND FEMALE SIGNrSIGNdTESE CROSScMMOTHcNd AND WOMAN HOLDING HANDSeDANCINGeIN BUSINESS SUIT LEVITATINGhTUXEDOeWITH GUA PI MAOjTURBANdAT SIGNdDAIC AFFRICATION MARKiGEMINATION MARKiLETTER ABqDqGqHqINqKrSAqLqMqNqPqQqRqSrHrZqTrTqZpDUSHENNApHALQApINqTpKADpUSHENNAiPUNCTUATIONiVOCALIZATION MARKdGOdICHAEAN ABBREVIATION MARK ABOVE%BELOWlLETTER AAYINtLEPHtYINsBETHtHETHsDALETHtHAMEDHsFEsGHIMELtIMELsHEuTHsJAYINtHAYINsKAPHtHAPHsLAMEDHsMEMsNUNsPEsQHOPHtOPHsRESHsSADHEuMEKHtHINtSHINsTAWtETHtHAMEDHsWAWsXAPHtOPHsYODHsZAYINtHAYINlNUMBER FIVEsONEv HUNDREDsTENtWENTYlPUNCTUATION DOT! WITHIN DOTzUBLE DOT WITHIN DOTxFLEURONxLINE FILLERxSTARxTWO DOTSlSIGN UDdS SHOEdTELPIECE CLOCKdUAL WHEELCHAIRcP SYMBOL FOR LIGHTHOUSEdLE LEAFcRCHEN HEAD MARKiLETTER -ApApBApCAqHApDAqZApGApHApJApKAqHApLApMAp",
    "NAqGAqYApPAqHApRApSAqHApTAqHAqSArHApWApYApZAqHAiMARK SHADiSIGN ANUSVARAnCANDRABINDUjUBJOINED LETTER AzBAzCA!HAzDA!ZAzGAzHAzJAzKA!HAzLAzMAzNA!GA!YAzPA!HAzRAzSA!HAzTA!HA!SA#HAzWAzYAzZA!HAiVOWEL SIGN AAtEtItOtUdRIAGE SYMBOLdTIAL ARTS UNIFORMcSARAM GONDI DIGIT EIGHTuFIVEvOURuNINEuONEuSEVENvIXuTHREEvWOuZEROoLETTER AwAwIwUvBAwHAvCAwHAvDAwDAxHAwHAvEvGAwHAvHAvIwIvJAwHAwNYAvKAwHAwSSAvLAwLAvMAvNAwGAwNAwYAvOvPAwHAvRAvSAwHAwSAvTAwHAwRAwTAxHAvUwUvVAvYAoRA-KARApEPHAoSIGN ANUSVARAtCANDRAtHALANTAtNUKTAtVISARGAoVIRAMApOWEL SIGN AA!I!UzEzI!IzOzU!UzVOCALIC RdCULINE ORDINAL INDICATORdK WORK SYMBOLdU MARKcTE DRINKdHEMATICAL BOLD CAPITAL A#LPHA!B#ETA!C#HI!D#ELTA#IGAMMA!E#PSILON#TA!F!G#AMMA!H!I#OTA!J!K#APPA!L#AMDA!M#U!N#U!O#MEGA$ICRON!P#HI#I#SI!Q!R#HO!S#IGMA!T#AU#HETA( SYMBOL!U#PSILON!V!W!X#I!Y!Z#ETAsDIGIT EIGHTyFIVEzOURyNINEyONEySEVENzIXyTHREEzWOyZEROsEPSILON SYMBOLsFRAKTUR CAPITAL A+B+C+D+E+F+G+H+I+J+K+L+M+N+O+P+Q+R+S+T+U+V+W+X+Y+Z!SMALL A)B)C)D)E)F)G)H)I)J)K)L)M)N)O)P)Q)R)S)T)U)V)W)X)Y)ZsITALIC CAPITAL A+",
    "LPHA*B+ETA*C+HI*D+ELTA*E+PSILON+TA*F*G+AMMA*H*I+OTA*J*K+APPA*L+AMDA*M+U*N+U*O+MEGA,ICRON*P+HI+I+SI*Q*R+HO*S+IGMA*T+AU+HETA; SYMBOL*U+PSILON*V*W*X+I*Y*Z+ETAzEPSILON SYMBOLzKAPPA SYMBOLzNABLAzPARTIAL DIFFERENTIAL!HI SYMBOL!I SYMBOLzRHO SYMBOLzSMALL A)LPHA(B)ETA(C)HI(D)ELTA(E)PSILON)TA(F)INAL SIGMA(G)AMMA(H(I)OTA(J(K)APPA(L)AMDA(M)U(N)U(O)MEGA*ICRON(P)HI)I)SI(Q(R)HO(S)IGMA(T)AU)HETA(U)PSILON(V(W(X)I(Y(Z)ETAzTHETA SYMBOLsKAPPA SYMBOLsNABLAsPARTIAL DIFFERENTIALtHI SYMBOLtI SYMBOLsRHO SYMBOLsSCRIPT CAPITAL A*B*C*D*E*F*G*H*I*J*K*L*M*N*O*P*Q*R*S*T*U*V*W*X*Y*ZzSMALL A(B(C(D(E(F(G(H(I(J(K(L(M(N(O(P(Q(R(S(T(U(V(W(X(Y(ZtMALL AzLPHAyBzETAyCzHIyDzELTAzIGAMMAyEzPSILONzTAyFzINAL SIGMAyGzAMMAyHyIzOTAyJyKzAPPAyLzAMDAyMzUyNzUyOzMEGA!ICRONyPzHIzIzSIyQyRzHOySzIGMAyTzAUzHETAyUzPSILONyVyWyXzIyYyZzETAsTHETA SYMBOLnDOUBLE-STRUCK CAPITAL A,B,D,E,F,G,I,J,K,L,M,O,S,T,U,V,W,X,Y#DIGIT EIGHT*FIVE+OUR*NINE*ONE*SEVEN+IX*THREE+WO*ZERO#SMALL A*B*C*D*E*F*G*H*I*J*K*L*M*N*O*P*Q*R*S*T*U*V*W*X*Y*ZnFALLING DIAGONALoRAKTUR CAP",
    "ITAL A%B%D%E%F%G%J%K%L%M%N%O%P%Q%S%T%U%V%W%X%YvSMALL A#B#C#D#E#F#G#H#I#J#K#L#M#N#O#P#Q#R#S#T#U#V#W#X#Y#ZnITALIC CAPITAL A%LPHA$B%ETA$C%HI$D%ELTA$E%PSILON%TA$F$G%AMMA$H$I%OTA$J$K%APPA$L%AMDA$M%U$N%U$O%MEGA&ICRON$P%HI%I%SI$Q$R%HO$S%IGMA$T%AU%HETA* SYMBOL$U%PSILON$V$W$X%I$Y$Z%ETAuEPSILON SYMBOLuKAPPA SYMBOLuNABLAuPARTIAL DIFFERENTIALvHI SYMBOLvI SYMBOLuRHO SYMBOLuSMALL A#LPHA!B#ETA!C#HI!D#ELTA#OTLESS I+J!E#PSILON#TA!F#INAL SIGMA!G#AMMA!I#OTA!J!K#APPA!L#AMDA!M#U!N#U!O#MEGA$ICRON!P#HI#I#SI!Q!R#HO!S#IGMA!T#AU#HETA!U#PSILON!V!W!X#I!Y!Z#ETAuTHETA SYMBOLnLEFT ANGLE BRACKETsDOUBLE ANGLE BRACKETsFLATTENED PARENTHESISsWHITE SQUARE BRACKETyTORTOISE SHELL BRACKETnMONOSPACE CAPITAL A(B(C(D(E(F(G(H(I(J(K(L(M(N(O(P(Q(R(S(T(U(V(W(X(Y(ZxDIGIT EIGHT%FIVE&OUR%NINE%ONE%SEVEN&IX%THREE&WO%ZEROxSMALL A%B%C%D%E%F%G%H%I%J%K%L%M%N%O%P%Q%R%S%T%U%V%W%X%Y%ZnRIGHT ANGLE BRACKETtDOUBLE ANGLE BRACKETtFLATTENED PARENTHESIStWHITE SQUARE BRACKETzTORTOISE SHELL BRACKETpSING DIAGONALnSANS-SERIF BOLD CAPITAL A;LPHA:B;ETA:C;H",
    "I:D;ELTA:E;PSILON;TA:F:G;AMMA:H:I;OTA:J:K;APPA:L;AMDA:M;U:N;U:O;MEGA<ICRON:P;HI;I;SI:Q:R;HO:S;IGMA:T;AU;HETA? SYMBOL:U;PSILON:V:W:X;I:Y:Z;ETA%DIGIT EIGHT,FIVE.OUR,NINE,ONE,SEVEN.IX,THREE.WO,ZERO%EPSILON SYMBOL%ITALIC CAPITAL A]LPHA[B]ETA[C]HI[D]ELTA[E]PSILON]TA[F[G]AMMA[H[I]OTA[J[K]APPA[L]AMDA[M]U[N]U[O]MEGA^ICRON[P]HI]I]SI[Q[R]HO[S]IGMA[T]AU]HETA~ SYMBOL[U]PSILON[V[W[X]I[Y[Z]ETA.EPSILON SYMBOL.KAPPA SYMBOL.NABLA.PARTIAL DIFFERENTIAL:HI SYMBOL:I SYMBOL.RHO SYMBOL.SMALL A@LPHA?B@ETA?C@HI?D@ELTA?E@PSILON@TA?F@INAL SIGMA?G@AMMA?H?I@OTA?J?K@APPA?L@AMDA?M@U?N@U?O@MEGA[ICRON?P@HI@I@SI?Q?R@HO?S@IGMA?T@AU@HETA?U@PSILON?V?W?X@I?Y?Z@ETA.THETA SYMBOL%KAPPA SYMBOL%NABLA%PARTIAL DIFFERENTIAL&HI SYMBOL&I SYMBOL%RHO SYMBOL%SMALL A.LPHA,B.ETA,C.HI,D.ELTA,E.PSILON.TA,F.INAL SIGMA,G.AMMA,H,I.OTA,J,K.APPA,L.AMDA,M.U,N.U,O.MEGA:ICRON,P.HI.I.SI,Q,R.HO,S.IGMA,T.AU.HETA,U.PSILON,V,W,X.I,Y,Z.ETA%THETA SYMBOLyCAPITAL A)B)C)D)E)F)G)H)I)J)K)L)M)N)O)P)Q)R)S)T)U)V)W)X)Y)ZyDIGIT EIGHT&FIVE(OUR&NINE&ONE&SEVEN(IX&THR",
    "EE(WO&ZEROyITALIC CAPITAL A<B<C<D<E<F<G<H<I<J<K<L<M<N<O<P<Q<R<S<T<U<V<W<X<Y<Z(SMALL A:B:C:D:E:F:G:H:I:J:K:L:M:N:O:P:Q:R:S:T:U:V:W:X:Y:ZySMALL A&B&C&D&E&F&G&H&I&J&K&L&M&N&O&P&Q&R&S&T&U&V&W&X&Y&ZoCRIPT CAPITAL A$C$D$G$J$K$N$O$P$Q$S$T$U$V$W$X$Y$ZuSMALL A!B!C!D!F!H!I!J!K!L!M!N!P!Q!R!S!T!U!V!W!X!Y!ZcXIMIZEcYAN NUMERAL EIGHTtEENpLEVENoFIFTEENqVEpOURsTEENoNINEsTEENoONEoSEVENtTEENpIXrTEENoTENpHIRTEENqREEpWELVEqOoZERObEASURED ANGLEo OPENING LEFTpWITH OPEN ARM ENDING IN ARROW POINTING DOWN AND LEFT~TING DOWN AND RIGHT~TING LEFT AND DOWN~TING LEFT AND UP~TING RIGHT AND DOWN~TING RIGHT AND UP~TING UP AND LEFT~TING UP AND RIGHTjBYjRIGHT ANGLE WITH DOTdT ON BONEcCHANICAL ARMlLEGcDEFAIDRIN CAPITAL LETTER A$I$TIU#B#C#D#E#F#G#H$P#I#J#K$P#L#M#N$G$Y#O$E#P#Q#R#S#T#U#V#W#X#Y$U#ZnOMMAmDIGIT EIGHTsFIVEtOURsNINEsONEv ALTERNATE FORMsSEVENtIXsTHREEx ALTERNATE FORMtWOv ALTERNATE FORMsZEROmEXCLAMATION OHmFULL STOPmNUMBER EIGHTEENuLEVENtFIFTEENuOURTEENtNINETEENtSEVENTEENuIXTEENtTENuHIRTEENuWELVEmSMALL LETTER A!I!T",
    "IUzBzCzDzEzFzGzH!PzIzJzK!PzLzMzN!G!YzO!EzPzQzRzSzTzUzVzWzXzY!UzZnYMBOL AIVAdIEVAL COMMAjEXCLAMATION MARKjQUESTION MARKeUM BLACK CIRCLEiOLD WHITE CIRCLEhEIGHT POINTED BLACK STARnSPOKED ASTERISKhFIVE SPOKED ASTERISKiLATTENED LEFT PARENTHESIS ORNAMENTrRIGHT PARENTHESIS ORNAMENTiOUR POINTED BLACK STARuPINWHEEL STARhGREEK CROSShLEFT CURLY BRACKET ORNAMENTmPARENTHESIS ORNAMENTl-POINTING ANGLE BRACKET ORNAMENThMATHEMATICAL SPACEhRIGHT CURLY BRACKET ORNAMENTnPARENTHESIS ORNAMENTm-POINTING ANGLE BRACKET ORNAMENThSALTIREiHADEiIX POINTED BLACK STARlSPOKED ASTERISKiMALL WHITE CIRCLEhTHREE POINTED BLACK STARvPINWHEEL STARhVERTICAL BARhWHITE CIRCLEnSQUAREcETEI MAYEK AHANG KHUDAMoNJIoPUN IYEKnCHEIKHANtEInDIGIT EIGHTtFIVEuOURtNINEtONEtSEVENuIXtTHREEuWOtZEROnLETTER ATIYAuBAvHAMuCHAwILuDDAwHAvHOUvILuEuGHOUvOKuHUKuIv LONSUMuJHAMvILuKHOUvOKx LONSUMuLAIx LONSUMuMITx LONSUMuNAw LONSUMvGOUy LONSUMvNAvYAuOuPAw LONSUMvHAMuRAIuSAMvHAvSAuTHOUvILx LONSUMvTAwHAuUNuWAIuYANGoUM IYEKnSYLLABLE REPETITION MARKnVIRAMAoO",
    "WEL SIGN AAI!UzNAPzUyCHEINAPyIIzNAPyNUNGyONAPySOUNAPyUNAPzUyVISARGAyYENAPnWORD REPETITION MARKcLONdTING FACEcMOcNDE KIKAKUI COMBINING NUMBER HUNDRED THOUSANDS;S(MILLIONS(TEENS*N THOUSANDS+S)HOUSANDSoDIGIT EIGHTuFIVEvOURuNINEuONEuSEVENvIXuTHREEvWOoSYLLABLE M001 KI!2 KA!3 KU!4 WI!5 WA!6 WU!7 MIN!8 MAN!9 MUNz10 BI!1 BA!2 BU!3 I!4 A!5 U!6 DI!7 DA!8 DU!9 SIz20 SA!1 SU!2 TI!3 TA!4 TU!5 LI!6 LA!7 LU!8 JI!9 JAz30 JU!1 YI!2 YA!3 YU!4 FI!5 FA!6 FU!7 NIN!8 NAN!9 NUNz40 HEE!1 HA!2 HOO!3 NGGA!4 KPEE!5 WO!6 HUAN!7 MBEE!8 KO!9 WVAz50 PU!1 PE!2 HEN!3 HIN!4 LOO!5 TE!6 GBA!7 NGON!8 NYAN!9 MENz60 NYON!1 WVI!2 MBA!3 JO!4 NDO!5 KEE!6 PO!7 NDOO!8 PI!9 TOz70 GBO!1 GBOO!2 MBE!3 LE!4 KPU!5 FE!6 KOO!7 VO!8 FEE!9 SOz80 YE!1 PEE!2 NGGU!3 HEEI!4 LEE!5 VE!6 LONG NGGE!7 HUN!8 FO!9 DEEz90 NGGI!1 TEE!2 KPA!3 GBEE!4 MON!5 KE!6 HE!7 BE!8 NYEN!9 PAy100 E!1 FAN!2 POO!3 BOO!4 TOO!5 LONG MBOO!6 LONG NGGOO!7 GBE!8 KPE!9 YEEz10 LONG LE!1 GA!2 KPOO!3 JE!4 WOO!5 NGGEE!6 SE!7 NEN!8 WE!9 NDEz20 NGGO!1 YO!2 MBU!3 NDI!4 GBI!5 NDU!6",
    " WEE!7 NGGUA!8 HOOU!9 NDAz30 HAN!1 IN!2 KPI!3 FOO!4 NJOO!5 IN!6 SOO!7 EI!8 BO!9 WVEz40 HO!1 YOO!2 LONG MBO!3 WEI!4 VOO!5 MBI!6 NGGE!7 O!8 GBU!9 NJEEz50 BEE!1 VU!2 NJA!3 LO!4 MUAN!5 GI!6 NGGOO!7 JEE!8 KPO!9 NGGAAz60 JOO!1 LONG MBE!2 SEE!3 EE!4 NYIN!5 OO!6 GUEI!7 GUAN!8 GU!9 NONz70 NYUN!1 RA!2 MBOO!3 VEE!4 MBO!5 LONG JO!6 HI!7 NGUAN!8 EN!9 KUAz80 DOO!1 DO!2 VI!3 LONG NGGO!4 NGEN!5 VA!6 HU!7 MBUU!8 MBEE!9 MUENz90 GEE!1 NDEE!2 NJU!3 HON!4 WUI!5 AN!6 SIA!7 FUAdORAH WITH NINE BRANCHESdS SYMBOLcRCURYdOITIC CURSIVE FRACTION EIGHT TWELFTHS#LEVEN TWELFTHS!FIVE TWELFTHS#OUR TWELFTHS!NINE TWELFTHS!ONE HALF&TWELFTH!SEVEN TWELFTHS#IX TWELFTHS!TEN TWELFTHS#HREE TWELFTHS#WO TWELFTHSrLETTER AzRCHAIC SAyBAyDAyEyHHAyIyKAzHAyLAyMAyNAzEyOyPAyQAyRAySAzEyTAzEzOyWAyYAsOGOGRAM IMN!RMTrNUMBER EIGHT% HUNDRED: THOUSAND&THOUSAND%Y THOUSANDyFIFTY% THOUSAND!VE$ HUNDRED. THOUSAND%THOUSANDzORTY% THOUSAND!UR$ HUNDRED. THOUSAND%THOUSANDyNINE$ HUNDRED. THOUSAND%THOUSAND$TY THOUSANDyONE# HUNDRED, THOUSAND$THOUSANDySEVEN% ",
    "HUNDRED: THOUSAND&THOUSAND%TY( THOUSANDzIX# HUNDRED, THOUSAND$THOUSAND#TY% THOUSANDyTEN# THOUSANDzHIRTY& THOUSAND!REE% HUNDRED: THOUSAND&THOUSANDzWENTY& THOUSAND!O# HUNDRED, THOUSAND$THOUSANDjHIEROGLYPHIC LETTER A%BA(-2%DA%E%HHA%I%KA&HA%LA%MA%NA(-2&E(-2%O%PA%QA%RA(-2%SA(-2&E%TA(-2&E(-2&O%WA%YAwSYMBOL VIDJ*-2dPERSONcSSAGE WAITINGcTRICAL BREVEjLONG OVER SHORTtTWO SHORTSjPENTASEMEjSHORT OVER LONGjTETRASEMEkRISEMEkWO SHORTS JOINEDuOVER LONGeObIAO LETTER AHnRCHAIC MAuNAvGAuZZAmBAnRImDAnDAnLHApYAnZAoHAoYIoZAmFAmGAnHAoHAmHAnHAmKAmLAnHAoYAnYAmMAnHAmNAoSALIZATIONnGAoHAnHAnNAoHAnYAoHAmPAnLAmQAnGAmREFORMED TONE-1!2!4!5!6!8wSHAnTEmSAnHAnSAnYImTAnEnLHApYAnONE-2r3r4r5r6r7r8nSAoEoHAoSAnTAmVAnFAmWAmXAmYI DZHApKApNNApPApTAqSArHAqTAmZAnHAnSAoHAnZAoSApYAoYAfSIGN ASPIRATIONkCONSONANT MODIFIER BARkREFORMED ASPIRATIONtVOICINGfTONE ABOVEkBELOWkRIGHTkTOP RIGHTfVOWEL SIGN ArArEsErHHrIrNsGrUqErArIrNsGrRsRqIrAsNtGrErGrIrNGrOsNGrUqNrGqOrERsYrGrOrUqROUNDED ER!RqUrAsNtGrEIrIrNGrOGrUqVWqWrOqYrIrUIcCR DASH SYMBOLfON ",
    "US SYMBOLeO SIGNfBEfPHONEfSCOPEcDDLE DOThTHIRD WHITE RIGHT POINTING INDEXdLINE HORIZONTAL ELLIPSIScLITARY HELMETjMEDALdKY WAYdL SIGNcNIBUSeDISCeMIZEdUS SIGNk IN TRIANGLElWITH COMMA ABOVEqDOT BELOWqFALLING DOTSqRISING DOTSgTILDEf-OR-PLUS SIGNdYcRRORg BALLbMSPbOBILE PHONEm OFFnWITH RIGHTWARDS ARROW AT LEFTcDELSeRN PENTATHLONdI ABBREVIATION SIGNfDANDAgIGIT EIGHTlFIVEmOURlNINElONElSEVENmIXlTHREEmWOlZEROgOUBLE DANDAfLETTER AnAnInUmBAnHAmCAnHAmDAnDAoHAnHAmEmGAnHAmHAmInImJAnHAmKAnHAmLAnLAmMAmNAnGAnNAnYAmOmPAnHAmRAmSAnHAnSAmTAnHAnTAoHAmUnUmVAnOCALIC LvLuRvRmYAfSIGN ANUSVARAlRDHACANDRAkHUVAkVIRAMAmSARGAfVOWEL SIGN AArIrUqEqIrIqOqUrUqVOCALIC LzLyRzReFIER BREVE WITH INVERTED BREVEjLETTER ACUTE ACCENTrLVEOLAR CLICKrPOSTROPHEqBEGIN HIGH TONEwLOW TONErILABIAL CLICKqCAPITAL AzEyBzARRED ByCyDyEyFyGyHz WITH STROKEyIyJyKyLyMyNyOzUyPyQyRzEVERSED E*NyTyUyVyWrENTRED LEFT HALF RINGyRIGHT HALF RINGrHINESE TONE YANG PING+QU+RU+SHANG&IN PING*QU*RU*SHANGrIRCUMFLEX ACCENTrOLONrROSS ACCENTrYRILLIC ENzHARD SIGNzSO",
    "FT SIGNqDENTAL CLICKrOT HORIZONTAL BARuSLASHuVERTICAL BARsUBLE APOSTROPHExPRIMEsWN ARROWHEADvTACKqEND HIGH TONEuLOW TONErXTRA-HIGH DOTTED LEFT-STEM TONE BAR+TONE BAR#LEFT-STEM TONE BAR#TONE BARwLOW DOTTED LEFT-STEM TONE BAR*TONE BAR!LEFT-STEM TONE BAR!TONE BARqGEORGIAN NARrLOTTAL STOP$ WITH STROKErRAVE ACCENTqHALF TRIANGULAR COLONrIGH DOTTED LEFT-STEM TONE BAR$TONE BARvLEFT-STEM TONE BARvTONE BARqLATERAL CLICKrEFT ARROWHEADvHALF RINGvTACKrOW ACUTE ACCENTuCIRCUMFLEX ACCENTuDOTTED LEFT-STEM TONE BAR#TONE BARwWN ARROWHEADuGRAVE ACCENTuINVERTED EXCLAMATION MARKuLEFT ARROW&HEADy-STEM TONE BARuMACRONuRIGHT ARROWHEADwNGuTILDEvONE BARuUP ARROWHEADuVERTICAL LINEtER RIGHT CORNER ANGLEqMACRONrID DOTTED LEFT-STEM TONE BAR#TONE BARuLEFT-STEM TONE BARuTONE BARtDLE DOUBLE ACUTE ACCENT&GRAVE ACCENTxGRAVE ACCENTsNUS SIGNqOPEN SHELFqPLUS SIGNrRIMEqRAISED COLONxDOWN ARROWxEXCLAMATION MARKxINVERTED EXCLAMATION MARKxUP ARROWrETROFLEX CLICK WITH RETROFLEX HOOKsVERSED COMMAzGLOTTAL STOP: WITH STROKErHOTIC HO",
    "OKrIGHT ARROWHEADwHALF RINGwTACKqSHELFsORT EQUALS SIGNrMALL AxExINxLPHAwBx WITH HOOKxARRED OxETAxOTTOM HALF OwCx WITH CURLxAPITAL AA&B&G( WITH HOOK&H&I( WITH STROKE(NVERTED R&L( WITH BELT&N&OE&R&U&YxHIxLOSED OMEGA%REVERSED OPEN EwDx WITH HOOK* AND TAIL%TAILxELTAyZH DIGRAPHxOTLESS J WITH STROKE@ AND HOOKxZ DIGRAPH) WITH CURL;RETROFLEX HOOKwExNGxSHxTHxZHwFxENG DIGRAPHwGx WITH HOOKxAMMAxREEK GAMMA$PHIwHx WITH HOOK%STROKExENG! WITH HOOKwI WITH STROKExOTAwJx WITH CROSSED-TAILwKwLx WITH BELT%INVERTED LAZY S%MIDDLE TILDE%PALATAL HOOK%RETROFLEX HOOK@ AND BELTxEZH! WITH RETROFLEX HOOKxIGATURE OExS DIGRAPHxZ DIGRAPHwMx WITH HOOKwN WITH LEFT HOOK%RETROFLEX HOOKwOx WITH STROKExPEN E#OwPxHIwQwRx WITH FISHHOOK%TAILxAMS HORNxEVERSED E(GLOTTAL STOP(OPEN EwSx WITH CURL%HOOKxCHWAyRIPT GxIDEWAYS UwTx WITH PALATAL HOOK%RETROFLEX HOOKxC DIGRAPH WITH CURLxESH DIGRAPHxHETAxOP HALF OxS DIGRAPH) WITH RETROFLEX HOOKxURNED A&E&LPHA%H%I%M& WITH LONG LEG%OPEN E%R& WITH HOOK.LONG LEG[ AND RETROFLEX HOOK%V%W%Y& WITH",
    " BELTwUx BARyWITH LEFT HOOKxPSILONwVx WITH HOOK%RIGHT HOOKwWwXwYwZx WITH CURL%RETROFLEX HOOKrTRESS AND HIGH TONE#LOW TONErUPERSCRIPT HALF TRIANGULAR COLON$TRIANGULAR COLONqTRIANGULAR COLONrURNED COMMAqUNASPIRATEDrP ARROWHEADtTACKrSqVERTICAL LINErOICINGqYANG DEPARTING TONE MARKrIN DEPARTING TONE MARKdULO TWO SUMcNEY BAGgWITH WINGSf-MOUTH FACEdGOLIAN BIRGAp WITH DOUBLE ORNAMENTvORNAMENTkCOLONmMMAkDIGIT EIGHTqFIVErOURqNINEqONEqSEVENrIXqTHREErWOqZEROlOUBLE BIRGA WITH ORNAMENTkELLIPSISkFOUR DOTSlREE VARIATION SELECTOR FOUR+ONE+THREE,WOlULL STOPkINVERTED BIRGAy WITH DOUBLE ORNAMENTkLETTER AsLI GALI A#H#NUSVARA ONE!BALUDA!CA!DA$GALGA$MARU#DA!HALF U(YA!I#NVERTED UBADAMA!KA!NGA#NA!PA#HA!SSA!TA#HREE BALUDA#TA$HA!UBADAMA!VISARGA ONE!ZA#HAsNGrBArCHAu WITH TWO DOTStIrDArEsErFArGArHAArIrJArKAsHArLAsHArMAtNCHU ALI GALI BHA*CA+YA*DDHA+HA*GHA*JHA*LHA*NGA*SSA*TA+TA*ZA+HAyFAyIyKAyRAyZHArNArOsErPArQArRArSAsHAsIBE ANGwCHAwDAwEwFAwGAyAwHAyAwIxYwJAwKAwPAwRAAwSHAwTAxSAwUxEwZAxHArTAsODO ALI GALI TA(ZHAxNGwBAwC",
    "HAwDAxZAwEwGAyAwHAAwIwJAxIAwKAwLONG VOWEL SIGNwMAwNIAwOxEwPAwQAwTAxSAwUxEwWAwYAsSArUsErWArYArZAsHIsRAkMANCHU COMMArFULL STOPkNIRUGUkROTATED BIRGAx WITH DOUBLE ORNAMENT%ORNAMENTkSIBE SYLLABLE BOUNDARY MARKERlWIRL BIRGAv WITH DOUBLE ORNAMENT#ORNAMENTkTODO SOFT HYPHENlRIPLE BIRGA WITH ORNAMENTlURNED SWIRL BIRGA WITH DOUBLE ORNAMENTkVOWEL SEPARATORdKEYg FACEdOGRAM FOR EARTHnYANGoINeRAILeSTABLE SYMBOLcOD BUBBLEdN CAKEfVIEWING CEREMONYcSQUEfITOcTHER CHRISTMASdOR BOATgSCOOTERfIZED WHEELCHAIRfWAYcUNT FUJIfAINi BICYCLISTjCABLEWAYjRAILWAYdSEf FACEgTRAPdTHcVIE CAMERAcYAIbRO DANDAfIGIT EIGHTkFIVElOURkNINEkONEkSEVENlIXkTHREElWOkZEROfOUBLE DANDAeLETTER AlBAlCHUlDAnIlEmAlHAInOlKEAAEmHAImOlLAnNlMAEMmIMlNGImINlOmLmOlPAmHIlRImOlSHIlTAmEKmHEAlWAlYObUCH GREATER-THANfLESS-THANcLTANI LETTER ApBAqHApCAqHApDAqDArDArHAqHApEpGAqHApHApIpJAqJApKAqHApLApMApNAqNAqYApPAqHApRAqHAqRApSApTAqHAqTArHApUpVApYAiSECTION MARKeIMAPfPLE MUSICAL NOTEShICATION SIGNt IN DOUBLE CIRCLExLEFT HALF CIRCLExRIGHT HALF CIRCLExTRIANGLEuWI",
    "TH DOT ABOVEzUNDERBARpXfSETi MULTIPLICATIONjUNIONcSHROOMdIC FLAT SIGNgNATURAL SIGNgSHARP SIGNfAL KEYBOARDq WITH JACKSiNOTEiSCOREjYMBOL ARPEGGIATO DOWN!UPpBEGIN BEAMvPHRASEvSLURvTIEqRACEtKETrEATH MARKsVEtISv RESTpC CLEFqAESURAqIRCLE X NOTEHEADqLIMACUSsVISrUSTER NOTEHEAD BLACK)WHITEqODArMBINING ACCENT(-STACCATO!UGMENTATION DOTzBENDzDOIT#UBLE TONGUE#WN BOWzFLAG-1&2&3&4&5#IPzHARMONICzLOUREzMARCATO)-STACCATOzRIPzSMEAR!NAP PIZZICATO!PRECHGESANG STEM!TACCATISSIMO)O#EMzTENUTO!REMOLO-1*2*3#IPLE TONGUEzUP BOWsMON TIMEqRESCENDOrOIXqUT TIMEpDA CAPOrL SEGNOrMPt ALLrSHED BARLINEqECRESCENDOrGREE SLASHqOUBLE BARLINEwFLATwSHARPqRUM CLEF-1z2pEIGHTH NOTEwRESTqND BEAMtOF STIMMEtPHRASEtSLURtTIEpF CLEFv OTTAVA ALTA%BASSAqERMATAw BELOWqINAL BARLINEsGERED TREMOLO-1)2)3rVE-LINE STAFFqLAT DOWNuUPqORTErUR-LINE STAFFuSTRING FRETBOARDqUSA BLACKuWHITEpG CLEFv OTTAVA ALTA%BASSAqLISSANDO DOWNzUPqRACE NOTE NO SLASH!SLASHrEGORIAN C CLEFzF CLEFpHALF NOTEuPEDAL MARKuRESTrUPTSTIMMEpINVERTED TURNpKIEVAN C CLEFwEIGHTH NOTE ",
    "STEM DOWN<UPxND OF PIECEwFINAL NOTExLAT SIGNwHALF NOTEwQUARTER NOTE STEM DOWN=UPwRECITATIVE MARKwWHOLE NOTEqORONpLEFT REPEAT SIGNqONGAu IMPERFECTA RESTvPERFECTA RESTpMAXIMAqEZZOqINIMAv BLACKwRESTqOON NOTEHEAD BLACK%WHITEqULTI RESTuPLE MEASURE RESTpNATURAL DOWNxUPqEBENSTIMMEqOTEHEAD BLACKqULL NOTEHEADpONE HUNDRED TWENTY-EIGHTH NOTE>RESTs-LINE STAFFqRNAMENT STROKE-1)0)1(2(3(4(5(6(7(8(9qTTAVA ALTAwBASSApPARENTHESIS NOTEHEADqEDAL MARKvUP MARKrS SUBPUNCTISqIANOqLUS NOTEHEADqODATUSrRRECTUSy FLEXUSpQUARTER NOTExRESTxTONE FLAT$SHARPrINDICESIMA ALTA$BASSApREPEAT DOTSvED FIGURE-1(2(3rVERSE FINAL BARLINEqIGHT REPEAT SIGNrNFORZANDOpSCANDICUSy FLEXUSqEGNOrMIBREVIS BLACK!REST!WHITEtMINIMA BLACK!REST!WHITEqHARP DOWNvUPrORT BARLINEqINGLE BARLINErX-LINE STAFFtSTRING FRETBOARDsTEENTH NOTEzRESTtY-FOURTH NOTE$RESTqORIqQUARE BwNOTEHEAD BLACK(WHITEqUBITOpTEMPUS IMPERFECTUM CUM PROLATIONE IMPERFECTA~IMPERFECTA DIMINUTION-1~IMPERFECTA DIMINUTION-2~IMPERFECTA DIMINUTION-3~PERFECTAwPERFECTUM CUM PROLATIONE IMPE",
    "RFECTA_PERFECTA~RFECTA DIMINUTION-1qHIRTY-SECOND NOTE%RESTrREE-LINE STAFFqORCULUSx RESUPINUSqRrIANGLE NOTEHEAD DOWN BLACK;WHITE*LEFT BLACK;WHITE*RIGHT BLACK<WHITE*UP BLACK.RIGHT BLACK?WHITE.WHITEx-ROUND NOTEHEAD DOWN BLACK[WHITEqURNt SLASHuUPqWO-LINE STAFFpVIRGAqOID NOTEHEADpWHOLE NOTEvRESTqITH FINGERNAILSpX NOTEHEADpZbVSbWbYANMAR CONSONANT SIGN MEDIAL HA&RA&WA&YAyON MEDIAL LA+MA+NAxSHAN MEDIAL WAiDIGIT EIGHToFIVEpOURoNINEoONEoSEVENpIXoTHREEpWOoZEROiLETTER AqITON RAqUpBAqHApCAqHApDAqDArHAqHApEqASTERN PWO KAREN GHWA*NNA*YWApGAqHAqREAT SApHApIqIpJAqHApKAqHAsMTI CAxHAwDDAyHAxHAwFAwGAwHAxHAwJAxHAwLLAwNAxYAwRAwSAwTTAyHAwXAwZApLAqLApMAqON BBAvEtEtJHAtNGApNAqGAqNArYAqYApOpPAqHApRAqUMAI PALAUNG FApSAqGAW KAREN SHAqHAsN AuBAvHAuCAvHAuDAuFAuGAvHAuHAuJHAuKAvHAuNAvNAvYAuPHAuTHAuZArWE PALAUNG CHA$SHAqSApTArI LAING BA!HAzDA!DA#HA!HAzFAzGA!HAzJA!HAzLLAzNNA!YAqHAqTArHApUqUpVOCALIC LyLxRyRpWAqESTERN PWO KAREN PWA*THApYAjOGOGRAM KHAMTI HMyOAYyQNiMODIFIER LETTER KHAMTI REDUPLICATIONySHAN REDUPLICATIONiSH",
    "AN DIGIT EIGHTtFIVEuOURtNINEtONEtSEVENuIXtTHREEuWOtZEROjIGN ANUSVARAoSATnDOT BELOWnKHAMTI TONE-1z3nLITTLE SECTIONnPAO KAREN TONEnRUMAI PALAUNG TONE-5nSECTIONoHAN COUNCIL EMPHATIC TONE!TONE-2(3sSAWsTONE-2x3x5x6nTAI LAING TONE-2$5nVIRAMApSARGAnWESTERN PWO KAREN TONE-1.2.3.4.5jYMBOL AFOREMENTIONEDqITON EXCLAMATIONvONEvTWOpCOMPLETEDpGENITIVEpLOCATIVEpSHAN EXCLAMATIONuONEiTAI LAING DIGIT EIGHTyFIVEzOURyNINEyONEySEVENzIXyTHREEzWOyZEROjONE MARK SGAW KAREN HATHI%KE PHOiVOWEL SIGN AAuIvTON A!ItEu ABOVEtGEBA KAREN ItIuItKAYAH EEzOEzUtMON IIxOtSGAW KAREN EUuHAN AAyEz ABOVEyFINAL YtTALL AAtUuUtVOCALIC L$L#R$RtWESTERN PWO KAREN EU:UEaN-ARY CIRCLED DOT OPERATORoPLUS OPERATORoTIMES OPERATORhOPRODUCTgINTERSECTIONgLOGICAL ANDoORgPRODUCTgSQUARE INTERSECTION OPERATORnUNION OPERATORhUMMATIONgTIMES OPERATORgUNIONl OPERATOR WITH DOT!PLUSgWHITE VERTICAL BARbABATAEAN CRUCIFORM NUMBER FOURkLETTER ALEPHsYINrBETHrDALETHrFINAL ALEPHxBETHxHExKAPHxLAMEDHxMEMxNUNxSHINxYODHrGIMELrHEtTHrKAPHrLAMEDHrMEMrNUNrPErQOPHrRES",
    "HrSADHEtMEKHsHINrTAWsETHrWAWrYODHrZAYINkNUMBER FIVEsOURrONEu HUNDREDrTENsHREEsWENTYtOdLAcIL POLISHdRA SIGNcKcME BADGEcNDeINAGARI HEADSTROKEmLETTER AuAuIuUtBAuHAtCAuHAtDAuDAvHAuHAtEtGAuHAtHAtIuItJAuHAtKAuHAtLAuLAtMAtNAuGAuNAuYAtOtPAuHAtRAuRAtSAuHAuSAtTAuHAuTAvHAtUuUtVAuOCALIC R$RtYAmSIGN ANUSVARAsVAGRAHArSIDDHAMrVIRAMAtSARGAmVOWEL SIGN AAyIyUxExIyIxOxPRISHTHAMATRA ExUyUxVOCALIC R)RcRROW NO-BREAK SPACEcTIONAL DIGIT SHAPESjPARKcUSEATED FACEcZAR AMULETbBHcSPbECKTIEcGATED DOUBLE VERTICAL BAR DOUBLE RIGHT TURNSTILEfIVE ACKNOWLEDGEjCIRCLED DIGIT ZEROrLATIN CAPITAL LETTER A;B;C;D;E;F;G;H;I;J;K;L;M;N;O;P;Q;R;S;T;U;V;W;X;Y;ZrNUMBER EIGHTEENzLEVENyFIFTEENzOURTEENyNINETEENySEVENTEENzIXTEENyTHIRTEENzWELVE#NTYrSQUARErTRIANGLEjDIAGONAL CROSSsDIAMONDsMIDDLE RIGHT TO LOWER CENTREjSQUARED ABrCROSS MARKrICrLATIN CAPITAL LETTER A;B;C;D;E;F;G;H;I;J;K;L;M;N;O;P;Q;R;S;T;U;V;W;X;Y;ZrPArQUESTION MARKrSArWCcITHER A SUBSET OF NOR EQUAL TOmPERSET OF NOR EQUAL TOjPPROXIMATELY NOR ACTUALLY EQUAL TOiGREATER-THAN NOR",
    " EQUAL TO$IVALENT TOzLESS-THANiLESS-THAN NOR EQUAL TOzIVALENT TOwGREATER-THANcLcPTUNEh FORM TWOcRD FACEcSSUSdT WITH EGGSeING DOLLScUTEReRAL CHESS BISHOPu ROTATED NINETY DEGREES%TWO HUNDRED SEVENTY DEGREESoEQUIHOPPERy ROTATED NINETY DEGREESoKINGs ROTATED NINETY DEGREES#TWO HUNDRED SEVENTY DEGREESpNIGHTu ROTATED FORTY-FIVE DEGREES%NINETY DEGREES%ONE HUNDRED THIRTY-FIVE DEGREES%THREE HUNDRED FIFTEEN DEGREES&WO HUNDRED SEVENTY DEGREES>TWENTY-FIVE DEGREESoPAWNs ROTATED NINETY DEGREES#TWO HUNDRED SEVENTY DEGREESoQUEENt ROTATED NINETY DEGREES$TWO HUNDRED SEVENTY DEGREESoROOKs ROTATED NINETY DEGREES#TWO HUNDRED SEVENTY DEGREESoTURNED BISHOPvKINGwNIGHTvPAWNvQUEENvROOKiFACEcW LINEeMOON SYMBOLjWITH FACEeSHEQEL SIGNeTAI LUE DIGIT EIGHTsFIVEtOURsNINEsONEsSEVENtIXsTHREEtWOsZEROmLETTER FINAL BzDzKzMzN!GzVtHIGH BAyDAyFAyHAyKAzVAyLAyMAyNAzGAyPAzHAyQAySAzUAyTAzHAzSAyVAyXAzVAyYAtLOW BAxDAxFAxHAxKAyVAxLAxMAxNAyGAxPAyHAxQAxSAyUAxTAyHAySAxVAxXAyVAxYAmSIGN LAEuVmTHAM DIGIT ONEnONE MARK-1w2mVOWEL SIGN AAzYyEy",
    "YxExIIyYxOyAzYyYxUyEzYyUyYxVOWEL SHORTENERdA ABBREVIATION SIGNfCOMMAfDANDAgIGIT EIGHTlFIVEmOURlNINElONElSEVENmIXlTHREEmWOlZEROgOUBLE COMMAmDANDAfGAP FILLERfINSERTION SIGNfLETTER AnAnInUmBAnHAmCAnHAmDAnDAoHAnHAmEmGAnHAmHAmInImJAnHAmKAnHAmLAnHAmMAnHAmNAnGAoHAnHAnNAnYAoHAmOmPAnHAmRAnHAmSAnHAnSAmTAnHAnTAoHAmUnUmVEDIC ANUSVARAnOCALIC LvLuRvRmWAmYAfOMfPLACEHOLDER MARKfSANDHI MARKgIDDHIhGN ANUSVARAlVAGRAHAkCANDRABINDUkFINAL ANUSVARAkJIHVAMULIYAkNUKTAkUPADHMANIYAkVIRAMAmSARGAfVOWEL SIGN AArIrUqEqIrIqOqUrUqVOCALIC LzLyRzRdLINE LEFTiRIGHTdSPAPERcXT LINEfPAGEbIGHT WITH STARScNJAbKO COMBINING DOUBLE DOT ABOVEoLONG DESCENDING TONEtHIGH TONEtLOW TONEtRISING TONEoNASALIZATION MARKoSHORT HIGH TONEuLOW TONEuRISING TONEhMAeDANTAYALANfIGIT EIGHTkFIVElOURkNINEkONEkSEVENlIXkTHREElWOkZEROfOROME SIGNeEXCLAMATION MARKeHIGH TONE APOSTROPHEeLAJANYALANfETTER AlBAlCHAlDAnGBASINNAlEmElFAlGBAlHAlIlJAmONA CHAqJAqRAlKAlLAlMAlNmAn WOLOSOmYAo WOLOSOlOmOlPAlRAmRAlSAlTAlUlWAlYAfOW TONE APOSTROPHEeSYMBOL GBAKURUNENlOO DEN",
    "NENeTAMAN SIGNbLbNBSPbO BICYCLESeREAK HEREdENTRYi SIGNdMOBILE PHONESdONE UNDER EIGHTEEN SYMBOLdPEDESTRIANSeIRACYdSMOKING SYMBOLc-BREAK SPACEcMINAL DIGIT SHAPESeSMA SIGNcN-BREAKING HYPHENePOTABLE WATER SYMBOLdFORKINGcRdDIC MARK SIGNdMAL SUBGROUP OFs OR EQUAL TOdTH EAST AND SOUTH WEST ARROWmRROWq AND SOUTH EAST ARROWrCROSSING NORTH WEST ARROW!SOUTH EAST ARROWrWITH HOOKlBLACK ARROWlDOUBLE ARROWlPOINTING BUDuLEAFuVINE LEAFlSANS-SERIF ARROWlTRIANGLE-HEADED ARROW) TO BARlWHITE ARROWgINDIC FRACTION ONE EIGHTHzHALFzQUARTERzSIXTEENTHvTHREE QUARTERS#SIXTEENTHSmPLACEHOLDER MARKmQUANTITY MARKpRTER MARKmRUPEE MARKgWEST AND SOUTH EAST ARROWmRROWq AND NORTH EAST ARROWrCROSSING NORTH EAST ARROWrTO CORNERuLONG BARrWITH HOOKlBLACK ARROWlDOUBLE ARROWlPOINTING BUDuLEAFuVINE LEAFlSANS-SERIF ARROWlTRIANGLE-HEADED ARROW) TO BARlWHITE ARROWfEAST-POINTING AIRPLANEcSEcT A SUBSET OFiPERSET OFfLMOST EQUAL TOfN ELEMENT OFfSYMPTOTICALLY EQUAL TOeCHECK MARKeEQUAL TOhIVALENT TOeGREATER-THANeIDENTICAL TOeLESS-THANeNOR",
    "MAL SUBGROUP OFw OR EQUAL TOePARALLEL TOeSIGNfQUARE IMAGE OF OR EQUAL TOlORIGINAL OF OR EQUAL TOeTILDEfRUEdCHED LEFT SEMICIRCLE WITH THREE DOTSjOWER RIGHT-SHADOWED WHITE RIGHTWARDS ARROWiRIGHT SEMICIRCLE WITH THREE DOTSiUPPER RIGHT-SHADOWED WHITE RIGHTWARDS ARROWdEe PADhGEeBOOKi WITH DECORATIVE COVERbULdLcMBER EIGHTEEN FULL STOPiLEVEN FULL STOPhFIFTEEN FULL STOPiOURTEEN FULL STOPhNINETEEN FULL STOPhSEVENTEEN FULL STOPiIGNjXTEEN FULL STOPhTEN FULL STOPiHIRTEEN FULL STOPiWELVE FULL STOPkNTY FULL STOPdERO SIGNcSHU CHARACTER-1B170u1u2u3u4u5u6u7u8u9uAuBuCuDuEuFt80u1u2u3u4u5u6u7u8u9uAuBuCuDuEuFt90u1u2u3u4u5u6u7u8u9uAuBuCuDuEuFtA0u1u2u3u4u5u6u7u8u9uAuBuCuDuEuFtB0u1u2u3u4u5u6u7u8u9uAuBuCuDuEuFtC0u1u2u3u4u5u6u7u8u9uAuBuCuDuEuFtD0u1u2u3u4u5u6u7u8u9uAuBuCuDuEuFtE0u1u2u3u4u5u6u7u8u9uAuBuCuDuEuFtF0u1u2u3u4u5u6u7u8u9uAuBuCuDuEuFs200u1u2u3u4u5u6u7u8u9uAuBuCuDuEuFt10u1u2u3u4u5u6u7u8u9uAuBuCuDuEuFt20u1u2u3u4u5u6u7u8u9uAuBuCuDuEuFt30u1u2u3u4u5u6u7u8u9uAuBuCuDuEuFt40u1u2u3u4u5u6u7u8u9uAuBuCuDuEuFt50u1u2u",
    "3u4u5u6u7u8u9uAuBuCuDuEuFt60u1u2u3u4u5u6u7u8u9uAuBuCuDuEuFt70u1u2u3u4u5u6u7u8u9uAuBuCuDuEuFt80u1u2u3u4u5u6u7u8u9uAuBuCuDuEuFt90u1u2u3u4u5u6u7u8u9uAuBuCuDuEuFtA0u1u2u3u4u5u6u7u8u9uAuBuCuDuEuFtB0u1u2u3u4u5u6u7u8u9uAuBuCuDuEuFtC0u1u2u3u4u5u6u7u8u9uAuBuCuDuEuFtD0u1u2u3u4u5u6u7u8u9uAuBuCuDuEuFtE0u1u2u3u4u5u6u7u8u9uAuBuCuDuEuFtF0u1u2u3u4u5u6u7u8u9uAuBgITERATION MARKcT AND BOLTbYIAKENG PUACHUE HMONG CIRCLED CAxDIGIT EIGHT%FIVE&OUR%NINE%ONE%SEVEN&IX%THREE&WO%ZEROxLETTER A(A&CA&DA(LA&E(E&FA&GA&HA)H&I&KA&LA&MA(LA&NA(CA(KA(PA)LA(QA(RA(TA)SA)XA(YA&O(O&PA(LA&QA&RA(RA&SA&TA(SA(XA&U&VA&W&XA(YA&YA&ZAyOGOGRAM NYAJxSIGN FOR ANIMAL)INVERTEBRATE)LOCATION)PERSON)THING$XW XWyYLLABLE LENGTHENERxTONE-B$D$G$J$M$S$VaOBJECT REPLACEMENT CHARACTERcLIQUE ANGLE OPENING DOWNwUPiHYPHENcSERVER EYE SYMBOLbCR AMOUNT OF CHECKeBELT BUCKLEfOW TIEfRANCH BANK IDENTIFICATIONeCHAIRfUSTOMER ACCOUNT NUMBEReDASHfOUBLE BACKSLASHeFORKeHOOKeINVERTED FORKcTAGONAL SIGNdOPUSbDENbFFICE BUILDINGbGHAM FEATHER MARKgLETTER AILMnBEITHnCEIRToO",
    "LLnDAIRnEABHADHpDHADHpMHANCHOLLnFEARNnGORTnIFINoODHADHnLUISnMUINnNGEADALoIONnONNoRnPEITHnRUISnSAILoTRAIFnTINNEnUATHoILLEANNoRgREVERSED FEATHER MARKgSPACE MARKcONEKbHM SIGNbIL DRUMbK HAND SIGNbL CHIKI AHADjDIGIT EIGHTpFIVEqOURpNINEpONEpSEVENqIXpTHREEqWOpZEROjGAAHLAA TTUDDAAGjLETTER AAJsKsMsWrGrLrNGrTqEDDrNrPrRRqIHrNYrRrSqLAsArErIrOrUqOBrHrTTrVqUCrDrNNrYjMU TTUDDAGl-GAAHLAA TTUDDAAGjPHAARKAAkUNCTUATION DOUBLE MUCAADvMUCAADjRELAAcD CHINESE HOOK MARKmITERATION MARKeHUNGARIAN CAPITAL LETTER A&A&K&MB&ND%CLOSE E%E&B&C(H(S&D&E&F&G(Y&H&J&K&L(Y&M(P&N(C(T)-SHAPED SIGN(Y&P&R&S(Z&T(Y&V&Z(S%I&I%NIKOLSBURG OE=UE%O&EE&O%RUDIMENTA OE<UE%SHORT ER%U&NK&S&UoNUMBER FIFTYxVEvONEy HUNDREDzTHOUSANDvTENoSMALL LETTER A$A$K$MB$ND#CLOSE E#E$B$C%H%S$D$E$F$G%Y$H$J$K$L%Y$M%P$N%C%T&-SHAPED SIGN%Y$P$R$S%Z$T%Y$V$Z%S#I$I#NIKOLSBURG OE;UE#O$EE$O#RUDIMENTA OE:UE#SHORT ER#U$NK$S$UeITALIC LETTER AsBEsCHEsDEsEtFtKStLtMtNtRuStSuHuSsHEsItIsKAtEtHEtUsNORTHERN TSEsOsPEtHEsSHEtOUTHERN TSEsTEtHEsUtUsVEsYEsZElNUMERAL FIFTYvVEtONEtT",
    "ENeKEYeNORTH ARABIAN LETTER AIN!LEFzBEHzDAD#LzES-1$2$3zFEHzGEEM!HAINzHAH!EHzKAF!HAHzLAMzMEEMzNOONzQAFzREHzSADzTAH!EH!HAL#EHzWAWzYEHzZAH#INsNUMBER ONEzTEN!WENTYePERMIC LETTER ANsBURsCHERYsDOItZHOIuITAsEtFsGAIsHAsItAtEsKOKEsLEIsMENOEsNENOEsOtOsPEEIsREIsSHCHOOIuOOItIIsTAItSIUsUsVERtOOIsYAuTtERvIvUtRYtUsZATAtHOIhSIAN NUMBER HUNDREDtONEtTENuWENTYvOmSIGN AsURAMAZDAA#-2#HArBAtGAsUUMISHrCArDAtHYAAUSH!-2sIsUrFArGAsUrHArIrJAsIrKAsUrLArMAsIsUrNAsUrPArRAsUrSAsHAsSArTAsHAsUrUrVAsIrXAsSHAAYATHIYArYArZAmWORD DIVIDERiONAL COMPUTEReSOGDIAN FRACTION ONE HALFmLETTER ALEPHvTERNATE AYINuYINtBETHtFINAL ALEPHzBETHzHEzNUN$ WITH VERTICAL TAILzSADHE& WITH VERTICAL TAILzTAW$ WITH VERTICAL TAILtGIMELtHEvTHtKAPHtLAMEDHtMEMtNUNtPEtRESH-AYIN-DALETHtSADHEvMEKHuHINtTAWtWAWtYODHtZAYINnIGATURE AYIN-DALETHmNUMBER FIVEuOURtONEw HUNDREDtTENuHIRTYvREEuWENTYvOgUTH ARABIAN LETTER ALEF!YNzBETHzDALETH!HADHE$LETHzFEzGHAYN!IMELzHE#THzKAPH!HETHzLAMEDHzMEMzNUNzQOPHzRESHzSADHE#MEKH#T!HINzTAW!ETH!HAW#ETHzWAWzYODHzZAYNsNUMBER FIFTYzON",
    "EvERIC INDICATOReTURKIC LETTER ORKHON A!B!D!EB#D#G#K#L#N#R#S#T#Y!G!L!N!Q!R!S#H!T!YzBASHzEC!LT!M!NC#G#T#Y!P!SH!ZzI!C!QzO!E#K!P!Q!TsYENISEI A#B#D#E$B$G$K$N%G$T$Y#G#L#NG#Q#R#SH#T#Y!E#C#NC$T$Y#SH#Z!I#Q!OE$K#QeUYGHUR COMBINING DOT ABOVEzBELOWvTWO DOTS ABOVE&BELOWlLETTER ALEPHsBETHsFINAL HETHsGIMEL-HETHsKAPHsLAMEDHtESHsMEMsNUNsPEsRESHsSADHEuMEKHtHINsTAWsWAWsYODHsZAYINlPUNCTUATION BARxFOUR DOTSxTWO BARS#DOTSdER ADULTgMANgWOMANcIVEbM SYMBOLbN WITH EXCLAMATION MARK WITH LEFT RIGHT ARROW ABOVEcCOMING AUTOMOBILEjBUSjFIRE ENGINEjPOLICE CARjTAXIcE BUTTON MOUSEeDOT LEADERiOVER TWO DOTS PUNCTUATIONd-PIECE SWIMSUITcIONbPEN BOOKhXfCENTRE ASTERISKmBLACK STARmCROSSmTEARDROP-SPOKED ASTERISKfFILE FOLDERgOLDERfHANDS SIGNfLOCKfMAILBOX WITH LOWERED FLAGsRAISED FLAGfSUBSEThPERSETe-CIRCUIT-OUTPUT H-TYPE SYMBOLuL-TYPE SYMBOLfOUTLINED RIGHTWARDS ARROWdRATING SYSTEM COMMANDcHIUCHUScPOSITIONcTICAL DISCm ICONeON KEYbR WITH DOT INSIDEcANGE BOOKhHEARTfUTANcIGINAL OFdYA AI LENGTH MARKhU LENGTH MARKgDIGIT EIGHTmFIVEnOUR",
    "mNINEmONEmSEVENnIXmTHREEnWOmZEROgFRACTION ONE EIGHTHtHALFtQUARTERtSIXTEENTHpTHREE QUARTERSvSIXTEENTHSgISSHARgLETTER AoAoIoUnBAoHAnCAoHAnDAoDApHAoHAnEnGAoHAnHAnIoInJAoHAnKAoHAnLAoLAnMAnNAoGAoNAoYAnOnPAoHAnRAoHAoRAnSAoHAoSAnTAoHAoTApHAnUoUnVAoOCALIC LwLvRwRnWAnYAoYAgSIGN ANUSVARAmVAGRAHAlCANDRABINDUlNUKTAlOVERLINElVIRAMAnSARGAgVOWEL SIGN AAsIsUrErIsIrOrUsUrVOCALIC L!LzR!RcNATE LEFT PARENTHESIShRIGHT PARENTHESIScTHODOX CROSSbSAGE CAPITAL LETTER AwHwIxNvBRAvCHAvDHAvEwHCHAxKAxPAxTAySAwINvGHAvHAwYAvIvKAwHAwYAvLAvMAvNAvOwINvPAvSAwHAvTAwSAxHAvUvWAvZAwHAgSMALL LETTER AuHuIvNtBRAtCHAtDHAtEuHCHAvKAvPAvTAwSAuINtGHAtHAuYAtItKAuHAuYAtLAtMAtNAtOuINtPAtSAuHAtTAuSAvHAtUtWAtZAuHAcCcMANYA DIGIT EIGHToFIVEpOURoNINEoONEoSEVENpIXoTHREEpWOoZEROiLETTER AqAqLEFpBApCAYNpDEELqHApEqEpFApGApHApIpJApKAAFqHApLAANpMIINpNUUNpOqOpQAAFpRApSAqHIINpTApUpWAWpXApYAbTTERdOMAN SIYAQ ALTERNATE NUMBER EIGHT(FIVE)OUR, HUNDRED(NINE(SEVEN)IX+ HUNDRED(TEN+ THOUSAND)HREE)WO+ THOUSANDoFRACTION ONE HALF#SIXTHoMARRATANoNUMBER EIGHT! HU",
    "NDRED#THOUSAND!Y# THOUSANDvFIFTY! THOUSANDxVEz HUNDRED!THOUSANDwORTY! THOUSANDxURz HUNDRED!THOUSANDvNINEz HUNDRED!THOUSANDzTY# THOUSANDvONEy HUNDREDzTHOUSANDvSEVEN! HUNDRED#THOUSAND!TY$ THOUSANDwIXy HUNDREDzTHOUSANDyTY! THOUSANDvTENy THOUSANDwHIRTY# THOUSANDxREE! HUNDRED#THOUSANDwWENTY# THOUSANDxOy HUNDREDzTHOUSANDbUNCE SIGNcTBOX TRAYdLINED BLACK STARjGREEK CROSSjLATIN CROSSjWHITE STARbVERHEATED FACEeLAPhPING BLACK SQUARESmWHITE AND BLACK SQUARESsSQUARESfINEbWLbXbYSTERaPACKAGEcDdDING CHARACTERcGEe FACING UPfWITH CIRCLED TEXTlURLeReSdODAcHAWH HMONG CLAN SIGN FAJxHAMzWJxKHAByOOyWMxLAUJyISxMUASxPHABxTHOJySABzHEEJzWBxVAJyWJxXYOOJxYAJyEEGoONSONANT AUxCAUyHAUxHAUyLAUyNAUxLAUxMAUxNAUyCHAUyKAUyLAUyTHAUzSAUxPLHAUxQHAUxRAUxVAUxXAUxYAUnDIGIT EIGHTtFIVEuOURtNINEtONEtSEVENuIXtTHREEuWOtZEROnMARK CIM HOMwKESxHAVwSOxUAMwTAUMxUBnNUMBER HUNDRED MILLIONS#SuMILLIONSuTEN BILLIONSyTHOUSANDSxSvRILLIONSnSIGN AVsCIM CHEEMxUAM TSHOOJwHAIS LUS NTOG NTOGwNRES TOSwPUB DAWBwTSOV ROGxXWV! CHWVsHLItNUBsIB YAMsLOSsMEE",
    "J SUABxTSEEBtUSsNQIGtTUJsTAUtHIRD-STAGE HLItXHEEJ CEEVsVOS FEEMwLUBwNRUAwSEEVwTHIAByOMxSHAB CEEBsXAUStIABtYEEM FAIByNTXIVyRHOyTOVuOOsZWJ THAJnVOWEL KAABwVvBvIBwVvUBwVvVvWBwVuEBvEBwVvVuIABwVvBvVuOBvOBwVvVuUABwVvBvVuWBvVcLLASdM BRANCHfDOWN HANDfTREEfUP HANDeS UP TOGETHEReYRENE LEFT-POINTING FLEURONmTTER ALEPHsYINrBETHrDALETHrFINAL NUNrGIMELrHEtTHrKAPHrLAMEDHrMEMrNUNrPErQOPHrRESHrSADHEtMEKHsHINrTAWsETHrWAWrYODHrZAYINkNUMBER FIVEsOURrONErTENsHREEsWENTYtOkRIGHT-POINTING FLEURONcNCAKESdDA FACEcPERCLIPcRACHUTEeGRAPH SEPARATORjOSjUS MARKeLLEL TOjWITH HORIZONTAL STROKEoTILDE OPERATORdENTHESIZED DIGIT EIGHTuFIVEvOURuNINEuONEuSEVENvIXuTHREEvWOoHANGUL CHIEUCH$ AwIEUC! A#UvHIEUH! AvIEUNG! AvKHIEUKH$ AwIYEOK# AvMIEUM! AvNIEUN! AvPHIEUPH$ AwIEUP! AvRIEUL! AvSIOSz AvTHIEUTH$ AwIKEUT# AoIDEOGRAPH ALLIANCEyCALLzONGRATULATIONyEARTHzIGHTzNTERPRISEyFESTIVALzINANCIAL!RE!VEzOURyHAVEyLABORyMETALzOONyNAMEzINEyONEyREACH!PRESENT!SOURCE#TySELF!VENzIXzOCIETYzPECIALzTOCK!UDYzUN!PERVISEyTENzHREEzWOyWATERzOODoKOREAN ",
    "CHARACTER O HU)JEONoLATIN CAPITAL LETTER A,B,C,D,E,F,G,H,I,J,K,L,M,N,O,P,Q,R,S,T,U,V,W,X,Y,ZuSMALL LETTER A*B*C*D*E*F*G*H*I*J*K*L*M*N*O*P*Q*R*S*T*U*V*W*X*Y*ZoNUMBER EIGHTEENwLEVENvFIFTEENwOURTEENvNINETEENvSEVENTEENwIXTEENvTENwHIRTEENwWELVEyNTYdROTdT ALTERNATION MARKeIAL DIFFERENTIALiLINE BACKWARDnDOWNnFORWARDnUPhLY-RECYCLED PAPER SYMBOLeNERSHIP SIGNeY POPPERcSSED SYMBOLfNGER SHIPeIVE-PULL-DOWN-OUTPUT SYMBOLnUP-OUTPUT SYMBOLePORT CONTROLcU CIN HAU GLOTTAL STOPy FINALzVARIANTmLETTER AtBAtCAuHAtDAtEtFAuINAL KzLzMzN!GzPzTzWzYtGAtHAtIuAtKAuHAtLAtMAtNAuGAtOtPAuHAtRAtSAtTAuHAtUuAtVAtZAnOW-FALLING TONE$ FINAL%LONG* FINALmMID-LEVEL TONE! FINAL#LONG FINALmRISING TONEx FINALyLONG$ FINALmSANDHI GLOTTAL STOP( FINALtTONEx FINALyLONG$ FINALcW PRINTSbDFcIbEACE SYMBOLeHeOCKdNUTSdRcDESTRIANcN OVER STAMPED ENVELOPEdCILdGUINdSIVE FACEdTAGRAMcOPLE HUGGINGcR MILLE SIGNeSIGNeTEN THOUSAND SIGNdCENT SIGNdFORMING ARTSdMANENT PAPER SIGNdPENDICULARn WITH SdSEVERING FACEeON BOWING DEEPLYhCLIMBINGhDOING CARTWHEELhF",
    "ROWNINGhIN LOTUS POSITIONkSTEAMY ROOMhRAISING BOTH HANDS IN CELEBRATIONhWITH BALLnLOND HAIRmCROWNmFOLDED HANDSmHEADSCARFmPOUTING FACEgAL COMPUTERePECTIVEcSETA SIGNdO SIGNcTRI DISHbHAGS-PA DOUBLE HEAD MARKjLETTER ArLTERNATE YArSPIRATED FAqBAqCAsNDRABINDUrHAqDArDArZAqErEqFAqGArGAqHAqIqJAqKArHAqLAqMAqNArGArNArYAqOqPArHAqQAqRAqSArHArMALL AqTArHArSAsHArTAsHAqUqVOICED HAvLESS SHAqWAqXAqYAqZArHAjMARK DOUBLE SHADoSHADjSINGLE HEAD MARKkUBJOINED LETTER RA!WA!YAlPERFIXED LETTER RAdISTOS DISC SIGN ARROWtBEEwHIVEuOOMERANGvWuULLS LEGtCAPTIVEvRPENTRY PLANEvTuHILDuLUBuOLUMNvMBxINING OBLIQUE STROKEtDOLIUMvVEtEAGLEtFLUTEtGAUNTLETuRATERtHELMETuIDEuORNtLIDvLYtMANACLESvTTOCKtOX BACKtPAPYRUSuEDESTRIANuLANE TREEvUMED HEADtRAMuOSETTEtSAWuHIELDwPuLINGuMALL AXEuTRAINERtTATTOOED HEADuIARAuUNNYtVINEtWAVY BANDuOMANcILIPPINE DOUBLE PUNCTUATIONlSINGLE PUNCTUATIONcOENICIAN LETTER AINtLFsBETsDELTsGAMLsHEuTsKAFsLAMDsMEMsNUNsPEsQOFsROSHsSADEtEMKtHINsTAUtETsWAUsYODsZAIlNUMBER ONEv HUNDREDsTENtHREEtWENTYuOlWORD SEPARATORd",
    "LUSbICKeUP TRUCKcEcGd FACEeNOSEcLCROW SIGNdE OF POOdLcNATAdCHED FINGERSfING HANDdE DECORATIONeAPPLEdWHEEL STARcSCESdTOLcTCHFORKj WITH TEE TOPbLACARDeE OF INTEREST SIGNjWORSHIPdNCK CONSTANTp OVER TWO PIdYGROUND SLIDEeING CARD ACE OF CLUBSuDIAMONDSuHEARTSuSPADESnBACKoLACK JOKERnEIGHT OF CLUBSwDIAMONDSwHEARTSwSPADESnFIVE OF CLUBSvDIAMONDSvHEARTSvSPADESoOOLpUR OF CLUBSvDIAMONDSvHEARTSvSPADESnJACK OF CLUBSvDIAMONDSvHEARTSvSPADESnKING OF CLUBSvDIAMONDSvHEARTSvSPADESoNIGHT OF CLUBSxDIAMONDSxHEARTSxSPADESnNINE OF CLUBSvDIAMONDSvHEARTSvSPADESnQUEEN OF CLUBSwDIAMONDSwHEARTSwSPADESnRED JOKERnSEVEN OF CLUBSwDIAMONDSwHEARTSwSPADESoIX OF CLUBSuDIAMONDSuHEARTSuSPADESnTEN OF CLUBSuDIAMONDSuHEARTSuSPADESoHREE OF CLUBSwDIAMONDSwHEARTSwSPADESoRUMP-1u0u1u2u3u4u5u6u7u8u9t2u0u1t3t4t5t6t7t8t9oWO OF CLUBSuDIAMONDSuHEARTSuSPADESnWHITE JOKERcDcUdNGERdS SIGNj ABOVE EQUALS SIGNkIN LEFT HALF CIRCLEnRIGHT HALF CIRCLEnTRIANGLEkWITH BLACK TRIANGLEpCIRCUMFLEX ACCENT ABOVEpDOT BELOWpSMALL CIRCLE ABOVEqUBSCRIPT TWOpTILD",
    "E ABOVEvBELOWe-MINUS SIGNdTOf FORM FIVEmOURlTHREEmWObMbOCKET CALCULATORcLICE CARkS REVOLVING LIGHThOFFICERcODLEcP DIRECTIONAL FORMATTINGqISOLATEdCORNcRTABLE STEREOcSEIDONdITION INDICATORdTAL HORNhMARKl FACEeBOXcT OF FOODdABLE WATER SYMBOLeTOdTED PLANTcUCHdLTRY LEGdND SIGNdRING LIQUIDdTING CAT FACEiFACEcWER ON SYMBOLi-OFF SYMBOLgSLEEP SYMBOLhYMBOLbRAYER BEADScECEDESi ABOVE ALMOST EQUAL TOpEQUALS SIGNpNOT ALMOST EQUAL TOtEQUAL TOpSINGLE-LINE EQUALS SIGN#NOT EQUAL TOjBUT NOT EQUIVALENT TOjOR EQUAL TOpIVALENT TOjUNDER RELATIONdGNANT MANjPERSONjWOMANdSCRIPTION TAKEeENTATION FORM FOR VERTICAL COLON*MMA(EM DASH)N DASH)XCLAMATION MARK(HORIZONTAL ELLIPSIS(IDEOGRAPHIC COMMA@FULL STOP(LEFT ANGLE BRACKET.BLACK LENTICULAR BRACKET.CORNER BRACKET:URLY BRACKET.DOUBLE ANGLE BRACKET.PARENTHESIS.SQUARE BRACKET.TORTOISE SHELL BRACKET.WHITE CORNER BRACKET?LENTICULAR BRACKET)OW LINE(QUESTION MARK(RIGHT ANGLE BRACKET:BLACK LENTICULAR BRACKET:CORNER BRACKET;URLY BRACKET:DOUBLE ANGLE BRACKET:PARENTHESIS:SQUARE",
    " BRACKET:TORTOISE SHELL BRACKET:WHITE CORNER BRACKET@LENTICULAR BRACKET~ULAR BRAKCET(SEMICOLON(TWO DOT LEADER(WAVY LOW LINEdTZELdVIOUS PAGEcIMEdNCEgSSeT SCREEN SYMBOLfERh ICONdVACY MESSAGEfTE USE ONEmTWOl-1m2cOBING CANEdHIBITED SIGNdJECTIVEdPERTY LINEeORTIONkAL TOdSERPINAbSALTER PAHLAVI FOUR DOTS WITH CROSS(DOTqLETTER ALEPHxBETHxDALETHxGIMELxHEzTHxKAPHxLAMEDHxMEM-QOPHxNUNxPExSADHEzMEKHyHINxTAWxWAW-AYIN-RESHxYODHxZAYINqNUMBER FOURxONE! HUNDREDxTENyHREEyWENTYzOqSECTION MARKqTURNED SECTION MARKbU1c2cBLIC ADDRESS LOUDSPEAKERcNCTUATION SPACEgS ELEVATUS MARKcRPLE HEARTdSEcSHPINcT LITTER IN ITS PLACE SYMBOLaQUADRANT LOWER LEFTpRIGHTjUPPER LEFTt AND LOWER LEFT AND LOWER RIGHT&RIGHTyUPPER RIGHT AND LOWER LEFT^RIGHTpRIGHTu AND LOWER LEFT, AND LOWER RIGHTfUPLE INTEGRAL OPERATORkPRIMEdRTER NOTEdTERNION INTEGRAL OPERATORcESTION EXCLAMATION MARKjMARKiED EQUAL TOcINCUNXcOTATION MARKaRABBITg FACEcCCOONdING CARhMOTORCYCLEcDICAL SYMBOL BOTTOMeOf BUTTONfACTIVE SIGNcILWAY CARiTRACKdNeBOWdSED BACK OF HANDh",
    "COMMAhDOTkTED INTERPOLATION MARKERhFISThHANDl WITH FINGERS SPLAYEDrPART BETWEEN MIDDLE AND RING FINGERShINTERPOLATION MARKERhMC SIGNiD SIGNiR SIGNhSQUAREcMcTdIOcZORbECEIPTdORD SEPARATORdREATIONAL VEHICLEdYCLED PAPER SYMBOLgING SYMBOL FOR GENERIC MATERIALSvTYPE-1 PLASTICS!2 PLASTICS!3 PLASTICS!4 PLASTICS!5 PLASTICS!6 PLASTICS!7 PLASTICScD APPLEeGIFT ENVELOPEcFERENCE MARKcGIONAL INDICATOR SYMBOL LETTER A*B*C*D*E*F*G*H*I*J*K*L*M*N*O*P*Q*R*S*T*U*V*W*X*Y*ZeSTERED SIGNcJANG CONSONANT SIGN HwNxGwRhLETTER AoBAoCAoDAoGAoHAoJAoKAoLAoMApBAoNApDApGAqGApYAqJAoPAoRAoSAoTAoWAoYAhSECTION MARKhVIRAMAiOWEL SIGN AItUsEtAtUsIsOsUcLIEVED FACEcMINDER RIBBONcPLACEMENT CHARACTERcSPONSEdTRICTED LEFT ENTRY-1w2fOOMcTURN LEFThRIGHThSYMBOLcVERSE CHECKER BOARDiINDEXiLIGHT FOUR POINTED PINWHEEL STARkNE FEEDiSOLIDUSp OPERATORqPRECEDING SUBSETqWITH HORIZONTAL STROKEiTILDE OPERATOR ABOVE LEFTWARDS ARROW%RIGHTWARDS ARROWhD ANGLEo WITH UNDERBARjCOMMAjDOUBLE PRIMEv QUOTATION MARKqSTROKE NOT SIGNjEMPTY SETjFORKED PARAGRAPH",
    "OSjHAND WITH MIDDLE FINGER EXTENDEDjNOT SIGNjPILCROW SIGNkRIMEjQUESTION MARKjRAISED HAND WITH FINGERS SPLAYEDkIGHT ANGLEkOTATED FLORAL HEART BULLETjSANS-SERIF CAPITAL LkEMICOLONjTHUMBS DOWN SIGNqUP SIGNkILDEo EQUALSkRIPLE PRIMEjVICTORY HANDdOLVING HEARTSbHINOCEROSbIcAL SIGNcBBONg ARROW DOWN LEFTsRIGHTnLEFT DOWNsUPnRIGHT DOWNtUPnUP LEFTqRIGHTcCE BALLfCRACKERcFLEcGHT AND LOWER ONE EIGHTH BLOCKkUPPER ONE EIGHTH BLOCKiGER BUBBLEjLEl BRACKETt WITH DOTmDOTTED SUBSTITUTION MARKERmSUBSTITUTION MARKERmVARIANT WITH SQUAREmWITH ARCrDOWNWARDS ZIGZAG ARROWhRC GREATER-THAN BRACKETiROW WITH CIRCLED PLUSrSMALL CIRCLEgBLACK LENTICULAR BRACKETmTORTOISE SHELL BRACKETgCEILINGhORNER BRACKEThURLY BRACKETt LOWER HOOKuMIDDLE PIECEuUPPER HOOKgDOTTED SUBSTITUTION BRACKETiUBLE ANGLE BRACKEToRROW WITH ROUNDED HEADnPARENTHESISnQUOTATION MARKnWIGGLY FENCEgFISH TAILiVE EIGHTHS BLOCKhLOORgHALF BLACK CIRCLErSTARnOCKlFOLDERlMEDIUM SHADElRUNNING MANiND TELEPHONE RECEIVERgLOW PARAPHRASE BRACKETgNORMAL FACTOR SEMIDIRECT P",
    "RODUCTgONE EIGHTH BLOCKkQUARTER BLOCKhPEN SQUARED DOThUTER JOINgPARENTHESISr EXTENSIONsLOWER HOOKsUPPER HOOKgRAISED OMISSION BRACKETgS-SHAPED BAG DELIMITERhEMIDIRECT PRODUCTiVEN EIGHTHS BLOCKhIDEWAYS U BRACKETiNGLE QUOTATION MARKhPEAKERn WITH ONE SOUND WAVEtTHREE SOUND WAVESjECH BUBBLEhQUARE BRACKETu EXTENSIONvLOWER CORNERvUPPER CORNERvWITH DOUBLE STROKE!QUILL!STROKE!TICK IN BOTTOM CORNER+TOP CORNER!UNDERBARhUBSTITUTION BRACKETgTACKhHIRD WHITE RIGHT POINTING INDEXiOUGHT BUBBLEiREE EIGHTHS BLOCKmQUARTERS BLOCKhORTOISE SHELL BRACKEThRANSPOSITION BRACKETiIANGLEo ABOVE LEFT TRIANGLEmULAR ONE QUARTER BLOCKgVERTICAL BAR WITH QUILLqOX LINEgWHITE CORNER BRACKETnURLY BRACKETmLENTICULAR BRACKETmPARENTHESISmSQUARE BRACKETmTORTOISE SHELL BRACKEThIGGLY FENCEf-FACING ARMENIAN ETERNITY SIGNnFISTnSVASTI SIGNy WITH DOTSgHANDED INTERLACED PENTAGRAMgPOINTING ANGLE BRACKETpCURVED ANGLE BRACKETpDOUBLE ANGLE QUOTATION MARKpMAGNIFYING GLASSgSHADED WHITE RIGHTWARDS ARROWhIDE ARC CLOCKWISE ARROWgTO-LEFT EMBEDD",
    "INGoISOLATEoMARKoOVERRIDEfHAND INTERIOR PRODUCTfWARDS ARROWq ABOVE ALMOST EQUAL TOxREVERSE ALMOST EQUAL TO(TILDE OPERATORxSHORT LEFTWARDS ARROWxTILDE OPERATORsND UPPER AND LOWER ONE EIGHTH BLOCKrFROM BARz TO BLACK DIAMONDrOVER LEFTWARDS ARROWrTHROUGH GREATER-THANzSUPERSETzXsO BARvLACK DIAMONDrWITH CORNER DOWNWARDSwDOTTED STEMyUBLE VERTICAL STROKEwEQUILATERAL ARROWHEADwHOOKwLARGE TRIANGLE ARROWHEADxOOPwMEDIUM TRIANGLE ARROWHEADwNOTCHED TAILwPLUS BELOWwSMALL EQUILATERAL ARROWHEAD$TRIANGLE ARROWHEADxTROKEwTAIL! WITH DOUBLE VERTICAL STROKE)VERTICAL STROKExIP DOWNWARDS!UPWARDSwVERTICAL STROKEq-TAILlBACK-TILTED SHADOWED WHITE ARROWmLACK ARROWrCIRCLED WHITE ARROWmOTTOM SHADED WHITE ARROWlCOMPRESSED ARROWlDASHED ARROWmOUBLE ARROWx FROM BARyWITH STROKE%VERTICAL STROKEx-TAILsDASH ARROWlFINGER-POST ARROWmRONT-TILTED SHADOWED WHITE ARROWlHANDnRPOON OVER LEFTWARDS HARPOONtWITH BARB DOWN ABOVE LEFTWARDS HARPOON WITH BARB DOWN+BELOW LONG DASH+FROM BAR+TO BAR*WARDS%UP ABOVE LEFTWARDS HARPOON WITH BARB",
    " UP<ONG DASH;RIGHTWARDS HARPOON WITH BARB DOWN)FROM BAR)TO BAR(WARDSmEAVY ARROWrCOMPRESSED ARROWlLEFT-SHADED WHITE ARROWlOPEN-HEADED ARROWlPAIRED ARROWSlQUADRUPLE ARROWlRIGHT-SHADED WHITE ARROWmOCKETlSANS-SERIF ARROWmQUARED ARROWoIGGLE ARROWlTOP SHADED WHITE ARROWmRIANGLE ARROWHEADt-HEADED ARROW) OVER LEFTWARDS TRIANGLE-HEADED ARROW*TO BAR*WITH BOLD SHAFT;DOUBLE HORIZONTAL STROKE]VERTICAL STROKE;HEAVY SHAFT;LONG TIP DOWNWARDS_UPWARDS;MEDIUM SHAFT;NARROW SHAFT;VERY HEAVY SHAFT#DASHED ARROW#PAIRED ARROWSoPLE ARROWsDASH ARROWmWO HEADED ARROWo-HEADED ARROW FROM BAR$WITH DOUBLE VERTICAL STROKE*TAIL: WITH DOUBLE VERTICAL STROKE@VERTICAL STROKE+RIANGLE ARROWHEADS*VERTICAL STROKEwTRIPLE DASH ARROWlWAVE ARROWmHITE ARROWw FROM WALLxWITHIN TRIANGLE ARROWHEADcNGe ABOVEfBUOYfEQUAL TOfIN EQUAL TOfOPERATORfPOINTeED PLANETeING BELLcSING DIAGONAL CROSSING FALLING DIAGONALzSOUTH EAST ARROWbLEcIcMcObOASTED SWEET POTATOcBOT FACEcCKeETcLL OF PAPEReED-UP NEWSPAPERfR COASTERhSKATEeING ON THE FLOOR LAUGHINGcM",
    "AN AS SIGNgCENTURIAL SIGNgDENARIUS SIGNhIMIDIA SEXTULA SIGNhUPONDIUS SIGNgNUMERAL EIGHTpLEVENoFIFTYt EARLY FORMuTHOUSANDqVEs HUNDREDtTHOUSANDpOURoNINEoONEr HUNDREDz THOUSANDsTHOUSAND! C DoREVERSED ONE HUNDREDoSEVENpIXr LATE FORMoTENr THOUSANDpHREEpWELVEqOgQUINARIUS SIGNgSEMUNCIA SIGNiSTERTIUS SIGNiXTANS SIGNkULA SIGNhILIQUA SIGNgUNCIA SIGNcOSTERcSEeTTEcTATED CAPITAL QiFLORAL HEART BULLETiHEAVY BLACK HEART BULLETiLIGHT FOUR POINTED BLACK CUSPiWHITE FOUR POINTED CUSPcUND PUSHPINgTARGETfED SYMBOL FOR CAItFUtLUtSHOUvUANGXItXIcWBOATbSbUBLE SIGNcGBY FOOTBALLcLE-DELAYEDcMI DIGIT EIGHTlFIVEmOURlNINElONElSEVENmIXlTHREEmWOfFRACTION ONE HALFsQUARTERsTHIRDoTWO THIRDSfNUMBER EIGHT HUNDREDrYmFIFTYoVE HUNDREDnORTYoUR HUNDREDmNINE HUNDREDqTYmONE HUNDREDmSEVEN HUNDREDrTYnIX HUNDREDpTYmTENnHIRTYoREE HUNDREDnWENTYoO HUNDREDcNIC ARLAUG SYMBOLgBELGTHOR SYMBOLgCROSS PUNCTUATIONgLETTER AC AoESCoLGIZ EOLHXoNSUZ AnBERKANAN BEORC BJARKAN BnCoALCoEALCpNoWEORTHnDoAGAZ DAEG DoOTTED-LuNuPnEoARoHWAZ EH EoNGoTHnFEHU ",
    "FEOH FE FoRANKS CASKET AC$ESC#EH#IS#OSnGoARoEBO GYFU GpRnHAEGL HpGLAZ HnICELANDIC-YRoNGqWAZoORoSAZ IS ISS IoWAZ EOHnJERAN JnKoAUN KrAnLAUKAZ LAGU LOGR LoONG-BRANCH-AR AEzHAGALL HzMADR MzOSS OzYRnMANNAZ MAN MnNAUDIZ NYD NAUD NnOoEoNoOoPEN-PoS OoTHALAN ETHEL OnPERTHO PEORTH PnQnRAIDO RAD REID RnSHpORT-TWIG-AR AyBJARKAN ByHAGALL HyMADR MyNAUD NyOSS OySOL SyTYR TyYRoIGEL LONG-BRANCH-SOL SoOWILO SoTANnTHURISAZ THURS THORNoIWAZ TIR TYR TnURUZ UR UnVnWoUNJO WYNN WnXnYoRnZgMULTIPLE PUNCTUATIONgSINGLE PUNCTUATIONgTVIMADUR SYMBOLdNEReING SHIRT WITH SASHcPEE SIGNcSSIAN ASTROLOGICAL SYMBOL BINOVILE$NOVILE$QUINTILE$SENTAGON$TREDECILE$VIGINTILEaS IN TRIANGLEbAFETY PINhVESTcGITTARIUScILBOATcKE BOTTLE AND CUPcLT SHAKEReIREdUTING FACEcMARITAN ABBREVIATION MARKkLETTER ALAFrBAAsITrDALATrFIrGAMANrINsTsYrKAAFrLABATrMIMrNUNrQUFrRISHrSHANsINGAATrTAAFsITsSAADIYrYUTrZENkMARK DAGESHpEPENTHETIC YUTpINr-ALAFpNEQUDAApOCCLUSIONlODIFIER LETTER EPENTHETIC YUT!I!SHORT AkPUNCTUATION AFSAAQxNGEDyNAAUxRKAANUxTMAAUwBAUwME",
    "LODIC QITSAwNEQUDAAwQITSAwSHIYYAALAAxOF MASHFAATwTURUwZAEFxIQAAkVOWEL SIGN AwAvEvIvLONG A#A!E!I!UvOwVERLONG A(AvSHORT AwUKUNvUcNDWICHdS-SERIF HEAVY DOUBLE COMMA QUOTATION MARK ORNAMENTyTURNED COMMA QUOTATION MARK ORNAMENTrLOW DOUBLE COMMA QUOTATION MARK ORNAMENTlINTERROBANG ORNAMENTcRIcTELLITEj ANTENNAdURNcURASHTRA CONSONANT SIGN HAARUlDANDAmIGIT EIGHTrFIVEsOURrNINErONErSEVENsIXrTHREEsWOrZEROmOUBLE DANDAlLETTER AtAtItUsBAtHAsCAtHAsDAtDAuHAtHAsEtEsGAtHAsHAsItIsJAtHAsKAtHAsLAtLAsMAsNAtGAtNAtYAsOtOsPAtHAsRAsSAtHAtSAsTAtHAtTAuHAsUtUsVAtOCALIC L#L!R#RsYAlSIGN ANUSVARAqCANDRABINDUqVIRAMAsSARGAlVOWEL SIGN AAxIxUwExEwIxIwOxOwUxUwVOCALIC L(L&R(ReOPODcXOPHONEbCALESdRFcHOOLg SATCHELcIcOOTERdRPIONgUScREENeWDRIVERdIPT CAPITAL BpEpFpHpIpLpMpPpRhLIGATURE ET ORNAMENThSMALL EnGnLnOdOLLdUPLEbEALdTcCOND PLACE MEDALdTION SIGNeORcDNAcE-NO-EVIL MONKEYdDLINGcGMENThED DIGIT EIGHTqFIVErOURqNINEqONEqSEVENrIXqTHREErWOqZEROcLFIEcMICOLONeDIRECT PRODUCT WITH BOTTOM CLOSEDeSEXTILEcPARATED SYMBOLcRIOUS FACE WITH SYMB",
    "OLS COVERING MOUTHdVICE MARKcSAME DOTdQUIQUADRATEcT MINUSeTRANSMIT STATEcWING NEEDLEcXTILEbGCbHADOWED WHITE CIRCLEpLATIN CROSSpSTARdLLOW PAN OF FOODdMROCKdRADA ABBREVIATION SIGNiCONTINUATION SIGNiDANDAjIGIT EIGHToFIVEpOURoNINEoONEoSEVENpIXoTHREEpWOoZEROjOUBLE DANDAiEKAMjXTRA SHORT VOWEL MARKiHEADSTROKEiLETTER AqAqIqUpBAqHApCAqHApDAqDArHAqHApEpGAqHApHApIqIpJAqHApKAqHApLAqLApMApNAqGAqNAqYApOpPAqHApRApSAqHAqSApTAqHAqTArHApUqUpVAqOCALIC LyLxRyRpYAiOMiSANDHI MARKjECTION MARK-1v2kPARATORjIGN ANUSVARAoVAGRAHAnCANDRABINDUnINVERTED CANDRABINDUnJIHVAMULIYAnNUKTAnSIDDHAMnUPADHMANIYAnVIRAMApSARGAjUTRA MARKiVOWEL MODIFIER MARKoSIGN AAuIuUtEtIuItOtPRISHTHAMATRA EtUuUtVOCALIC L$L#R$ReKdVED ICEeIAN LETTER ADOqGEqHqIRqRErRAYqSHqWEpBIBpCHURCHpDEADpEARrTqGGqRRpFEEpGAGpHA-HAqUNGpIANqCEqFpJUDGEpKICKpLOLLpMEASUREqIMEpNUNpOAKqILqNqOZEqRqUTpPEEPpROARpSOqUREpTHEYrIGHqOTpUPpVOWpWOErOLpYEArWpZOOcEEPcIELDdFT INgOUTdNTO SHRINEdPcOCKED FACE WITH EXPLODING HEADdOTING STARdPPING BAGSjTROLLEYdRT BACKSLANTED SOUTH ARRO",
    "WhENT ARROW POINTING DOWNWARDS THEN NORTH EASTgDOWN TACKp WITH OVERBARgLEFT TACKgRIGHTWARDS ARROW ABOVE LEFTWARDS ARROWgSLANTED NORTH ARROWgUP TACKn ABOVE SHORT DOWN TACKoWITH UNDERBARfCAKEfHAND FORMAT CONTINUING OVERLAPrDOWN STEPrLETTER OVERLAPrUP STEPfSdULDERED OPEN BOXdWERcRIMPdUGcUFFLE PRODUCTcYbIcDDHAM DANDAjOUBLE DANDAiEND OF TEXT MARKiLETTER AqAqIqLTERNATE UqUpBAqHApCAqHApDAqDArHAqHApEpGAqHApHApIqIpJAqHApKAqHApLApMApNAqGAqNAqYApOpPAqHApRApSAqHAqSApTAqHArREE-CIRCLE ALTERNATE IqTArHAqWO-CIRCLE ALTERNATE I:IpUqUpVAqOCALIC LyLxRyRpYAiREPETITION MARK-1y2y3iSECTION MARK DOUBLE RING) WITH RAYSvWITH CIRCLES AND FOUR ENCLOSURES;RAYS;TWO ENCLOSURES!DOUBLE CRESCENTS!QUADRUPLE CRESCENTS!RAYS AND DOTTED CRESCENTS?DOUBLE CRESCENTS?TRIPLE CRESCENTS!SEPTUPLE CRESCENTS!TRIDENT AND DOTTED CRESCENTS;U-SHAPED ORNAMENTS%PLE CRESCENTSkPARATOR BARsDOTjIGN ANUSVARAnCANDRABINDUnNUKTAnSIDDHAMnVIRAMApSARGAiVOWEL SIGN AAuIuLTERNATE U&UuUtEtIuItOtUuUtVOCALIC R$RdEWAYS BLACK DOWN POINTING INDEXpLEFT POINTING",
    " INDEXpRIGHT POINTING INDEXpUP POINTING INDEXjWHITE DOWN POINTING INDEXpLEFT POINTING INDEXpRIGHT POINTING INDEXpUP POINTING INDEXcGN OF THE HORNSeWRITING AIR BLOW SMALL ROTATIONSuING OUTqSUCK SMALL ROTATIONSuING INmBREATH EXHALEtINHALEoUSH BETWEENsMULTIPLEsSINGLEmCHEEKS NEUTRALtPUFFEDtSUCKEDnOLONoMMAmDREAMY EYEBROWS DOWN NEUTRAL$NEUTRAL DOWN.UP$UP NEUTRALnYNAMIC ARROWHEAD LARGE&SMALLuEVERY OTHER TIMEuFASTuGRADUALuRELAXEDuSIMULTANEOUS) ALTERNATINGvLOWuTENSEmEARSnXCITEMENTnYE BLINK MULTIPLEwSINGLEqWINKpBROWS STRAIGHT DOWN&NEUTRAL&UPpGAZE-FLOORPLANE CURVED(STRAIGHT< ALTERNATING=DOUBLEuWALLPLANE CIRCLING(URVED&STRAIGHT; ALTERNATING<DOUBLEpLASHES DOWNwFLUTTERINGwUPpS CLOSEDrHALF CLOSEDwOPENrOPENrSQUEEZEDrWIDE OPENvNING MOVEMENTmFACE DIRECTION POSITION NOSE FORWARD TILTING>UP OR DOWN~WN TILTINGnILL MODIFIER-2!3!4!5!6oNGERnLICK LARGE MULTIPLEySINGLEsSEQUENTIALtMALL MULTIPLEySINGLEoOORPLANE SHOULDER HIP MOVEnOREHEAD CONTACTvNEUTRALvWRINKLEDnULL STOPmGRASP BETWEENsMULTIPLEsSINGLEmHAIRoND-ANGLE",
    "w INDEX$ MIDDLE LITTLE.RING%RING LITTLE= OUT%THUMB+ IN,OUTxLITTLE INDEX, THUMB INDEX THUMB~HUMB OUT&UPxMIDDLE RING LITTLE> IN?OUTxRING DOWN MIDDLE THUMB INDEX CROSS$LITTLErCIRCLEx INDEX% BENT&HINGE&MIDDLE. CROSS LITTLE?ED:LITTLE:RING:THUMB&RING LITTLEyLITTLE INDEX(UPyMIDDLE RING LITTLE? BENT(UPyRING LITTLEsLAWv FOUR FINGERS CONJOINEDwINDEX THUMB CURVE THUMB INSIDEwMIDDLE RING LITTLE CONJOINED~D SIDEwNO THUMBwTHUMB FORWARD$SIDEsUPu FIVE FINGERS SPREAD= OPENvINDEX! RING LITTLE#THUMB) OPENvMIDDLE RING LITTLEvNO THUMBvOPENz NO THUMB!THUMB FORWARD)SIDEvTHUMB FORWARD#SIDEtRLICUEz INDEX RING LITTLE ON!MIDDLE RING LITTLE ON!OPENrFISTv FOUR FINGERS CONJOINED BENTwHEELwINDEX# BENT) OVER MIDDLE$CUPPED$HINGED+ LOW,MIDDLE UP[ THUMB SIDE$MIDDLE+ BENT< THUMB STRAIGHT,CONJOINED[ CUPPED~ED THUMB FORWARD]HINGED~ED THUMB SIDE]INDEX BENT]MIDDLE BENT]THUMB FORWARD~B SIDE~B SIDE BENT~B SIDE CONJOINED.ROSS LITTLE=ED? THUMB SIDE,HINGED> SPREAD THUMB SIDE,LITTLE,RAISED KNUCKLES.ING< BENT=CONJOINED,STRAIGHT THU",
    "MB BENT,THUMB= ANGLED_ OUT>BENT>CIRCLED?ONJOINED HINGED?UPPED>HINGED?OOKED,UP SPREAD THUMB FORWARD$RAISED KNUCKLE%ING LITTLE$THUMB ANGLED IN MIDDLE UP>OUT MIDDLE UP+CIRCLE=D MIDDLE UP,UPPED MIDDLE UP.RLICUE:VE THUMB INSIDE^UNDER+FORWARD INDEX BENT|STRAIGHT+HOOK;ED MIDDLE HINGED|UP+SIDE; BOTH BENT<INDEX BENT]HINGE<THUMB BENT]CONJOINED]DIAGONAL$UP MIDDLE HINGED[ THUMB CONJOINED~B SIDEwLITTLE BENT%DOWN* OTHERS CIRCLED+RIPPLE CURVED>STRAIGHT%INDEX+ THUMB%RAISED KNUCKLE%THUMB&OUCHES THUMB%UPwMIDDLE BENT OVER INDEX%DOWN%LITTLE%RAISED KNUCKLE&ING LITTLE%THUMB ANGLED INDEX UP?OUT INDEX CROSSED~EX UP,CIRCLED INDEX HINGED~UP.UPPED INDEX UP,HOOKED INDEX UP,LITTLE%UP( THUMB SIDEwRING DOWN#INDEX#LITTLE#MIDDLE* CONJOINED+RAISED KNUCKLES#RAISED KNUCKLE#THUMB#UPwTHUMB# BETWEEN INDEX MIDDLE| STRAIGHT.MIDDLE RING.RING LITTLE$FORWARD$HEEL$OVER FOUR RAISED KNUCKLES*TWO FINGERS$SIDE BENT*CONJOINED*DIAGONAL$UNDER FOUR FINGERS+INDEX BENT+LITTLE UP+THREE FINGERS,WO FINGERSsLATv BETWEEN PALM FACINGSwFIVE FINGE",
    "RS SPREAD> BENT?FOUR BENT?HINGED| NO THUMB~THUMB SIDE?THUMB FORWARDxOUR FINGERS+ BENT,CONJOINED[ SPLIT,HINGEDwHEEL! FIVE FINGERS SPREAD^ BENT_FOUR BENT#THUMB SIDEwSPLIT CENTRE+ THUMB SIDE] BENT$INDEX THUMB SIDE$LITTLEwTHUMB BENT$FORWARD$SIDErHINGEw FIVE FINGERS SPREAD OPENyOUR FINGERS CONJOINEDxINDEX$ HINGED%MIDDLE LITTLE.RING= CONJOINED%RING LITTLE%THUMB+ LARGE,OPEN,SIDE.MALLxLITTLE% INDEX, THUMB&THUMBxMIDDLE% RING LITTLExNO THUMBxOPEN# NO THUMB$THUMB FORWARD+SIDExRING# DOWN INDEX THUMB HOOK MIDDLExSMALLxTHUMB BETWEEN MIDDLE RING%SIDE* TOUCHING INDEXsOOKv CURLICUEwINDEX RING LITTLE IN=OUT=UNDERwMIDDLE RING LITTLE CONJOINED~D IN~D OUT%THUMBwRING THUMBrOVALv FIVE FINGERS SPREADwINDEXwLITTLE UPwNO THUMBwRING LITTLEwTHUMB FORWARD$SIDEnEADq MOVEMENT CIRCLEz-FLOORPLANE CURVE:STRAIGHT!WALLPLANE CURVE.STRAIGHT.TILTrRIMmLIMB COMBINATIONrLENGTH-1y2y3y4y5y6y7oP LOWER OVER UPPERqUPPER OVER LOWERpS PRESSED TOGETHERnOCATION DEPTHvHEAD NECKxIGHTvLIMBS DIGITSvTORSOvWIDTHu-FLOORPLANE SPACEvWALLPLANE S",
    "PACEmMOUTH CLOSED CONTACTzFORWARDzNEUTRALtORNERSsFROWNx OPENyWRINKLEDsKISSw FORWARDxWRINKLEDsOPEN CIRCLExFORWARDxOVAL# WRINKLED$YAWNxRECTANGLE) WRINKLED*YAWNxWRINKLEDsSMILEx OPENyWRINKLEDsTENSEx FORWARDySUCKEDsWRINKLES DOUBLE#SINGLEoVEMENT-DIAGONAL AWAY LARGE=ST,MEDIUM,SMALL&BETWEEN AWAY LARGE|ST@MEDIUM@SMALL;TOWARDS LARGE~GEST^MEDIUM^SMALL&TOWARDS LARGE@ST;MEDIUM;SMALLvFLOORPLANE ARM CIRCLE HITTING WALL LARGE DOUBLE~G WALL LARGE SINGLE~G WALL MEDIUM DOUBLE~G WALL MEDIUM SINGLE~G WALL SMALL DOUBLE~G WALL SMALL SINGLE)BEND*OX LARGE.MEDIUM.SMALL)CHECK*ORNER LARGE<MEDIUM<SMALL*ROSS*URVE COMBINED;HITTING CEILING LARGE~LING SMALL^FLOOR LARGE~OR SMALL;LARGE@ST;MEDIUM;SMALL)DOUBLE ALTERNATING~G WRIST FLEX<STRAIGHT<WRIST FLEX)FINGER CIRCLES HITTING WALL DOUBLE~TTING WALL SINGLE=ONTACT)HUMP HITTING CEILING LARGE DOUBLE~ING LARGE TRIPLE~ING SMALL DOUBLE~ING SMALL TRIPLE]FLOOR LARGE DOUBLE~R SMALL DOUBLE~R TRIPLE LARGE TRIPLE~R TRIPLE SMALL TRIPLE:SMALL)JAW)LOOP HITTING CEILING LARGE DOUBLE~ING L",
    "ARGE SINGLE~ING SMALL DOUBLE~ING SMALL SINGLE]FLOOR LARGE DOUBLE~R LARGE SINGLE~R SMALL DOUBLE~R SMALL SINGLE:SMALL)PEAKS LARGE;MEDIUM;SMALL)SHAKING PARALLEL*INGLE STRAIGHT LARGE~ARGEST|MEDIUM|SMALL<WRIST FLEX)TRIPLE ALTERNATING MOVEMENT~G WRIST FLEX<STRAIGHT MOVEMENT<WRIST FLEX)WAVE HITTING CEILING LARGE~ING SMALL]FLOOR LARGE~R SMALL:LARGE:SMALL;NAKE*RIST CIRCLE HITTING WALL DOUBLE~ING WALL SINGLE)ZIGZAG LARGE<MEDIUM<SMALLvHINGE DOWN SEQUENTIAL#SIDE TO SIDE SCISSORS#UP DOWN ALTERNATING LARGE_SMALL,LARGE,SMALL&SEQUENTIALvWALLPLANE ARM CIRCLE MEDIUM DOUBLE~SINGLE?SMALL DOUBLE|SINGLE(BEND LARGE.MEDIUM.SMALL)OX LARGE,MEDIUM,SMALL(CHECK LARGE:MEDIUM:SMALL)ORNER LARGE;MEDIUM;ROTATION;SMALL)ROSS)URVE HALF-CIRCLE LARGE~LARGEST~MEDIUM~SMALL;ITTING CHEST]FRONT WALL:QUARTER LARGE~EST]MEDIUM]SMALL:THEN STRAIGHT<REE-QUARTER CIRCLE MEDIUM~R CIRCLE SMALL.D CROSS MEDIUM[SMALL(DOUBLE ALTERNATING~ WRIST FLEX;STRAIGHT;WRIST FLEX(FINGER CIRCLES DOUBLE^SINGLE<ONTACT(HUMP HITTING CHEST[FRONT WALL.LARGE.MED",
    "IUM.SMALL(JAW(LOOP HITTING CHEST[FRONT WALL.LARGE.MEDIUM.SMALL> DOUBLE(PEAKS LARGE:MEDIUM:SMALL(SHAKING)INGLE STRAIGHT LARGE~RGEST_MEDIUM_SMALL;WRIST FLEX(TRIPLE ALTERNATING~ WRIST FLEX;STRAIGHT MOVEMENT;WRIST FLEX(WAVE CURVE DOUBLE LARGE~MEDIUM~SMALL?TRIPLE LARGE~MEDIUM~SMALL.DIAGONAL PATH LARGE~ MEDIUM~ SMALL.HITTING CHEST[FRONT WALL)RIST CIRCLE FRONT DOUBLE~ SINGLE(ZIGZAG LARGE;MEDIUM;SMALLmNECKnOSE CONTACTrNEUTRALrWIGGLESsRINKLESmPARENTHESISmROTATION MODIFIER-10(1(2(3(4(5(6&2&3&4&5&6&7&8&9u-FLOORPLANE ALTERNATING@ HITTING CEILING~NG FLOOR)DOUBLE; HITTING CEILING_FLOOR)SINGLE; HITTING CEILING_FLOORvWALLPLANE ALTERNATE<ING HITTING CHEST~G FRONT WALL(DOUBLE: HITTING CHEST^FRONT WALL(SINGLE: HITTING CHEST^FRONT WALLnUB BETWEENqMULTIPLEqSINGLEmSEMICOLONnHOULDER HIP POSITIONSzSPINEvTILTING FROM WAISTnQUEEZE FLICK ALTERNATINGuLARGE MULTIPLE!SINGLEuSEQUENTIALvMALL MULTIPLE!SINGLEnTRIKE BETWEENtMULTIPLEtSINGLEnURFACE BETWEENuSYMBOLSmTEETHr BITE LIPSsMOVEMENTsON LIPSz MOVEMENTvTONGUE# MOVEME",
    "NToNSE CHEEKS HIGHzLOWzMIDDLEnONGUE CENTRE INSIDE MOUTH!STICKING OUTtINSIDE MOUTH RELAXEDtLICKING LIPStMOVES AGAINST CHEEKtSTICKING OUT FARtTIP BETWEEN LIPSxTOUCHING INSIDE MOUTHoRSO-FLOORPLANE TWISTINGsWALLPLANE CURVED BEND$STRAIGHT STRETCHoUCH BETWEENsMULTIPLEsSINGLEnRAVEL-FLOORPLANE ROTATION-FLOORPLANE ALTERNATING~ DOUBLE~ SINGLE<WALLPLANE ALTERNATING~DOUBLE~SINGLE&SHAKINGtWALLPLANE ARM SPIRAL DOUBLE=SINGLE=TRIPLE%ROTATION-FLOORPLANE ALTERNATING~DOUBLE~SINGLE;WALLPLANE ALTERNATING|DOUBLE|SINGLE%SHAKINGmUPPER BODY TILTING FROM HIP JOINTSmWALLPLANE SHOULDER HIP MOVEcLHOUETTE OF JAPANcMILAR ABOVE GREATER-THAN ABOVE EQUALS SIGNoLESS-THAN ABOVE EQUALS SIGNiMINUS SIMILARiOR GREATER-THANlLESS-THANcNE WAVEdGLE CHARACTER INTRODUCERhGRAPHIC CHARACTER INTRODUCERhHIGH-REVERSED-9 QUOTATION MARKhLEFT-POINTING ANGLE QUOTATION MARKiOW-9 QUOTATION MARKhRIGHT-POINTING ANGLE QUOTATION MARKhSHIFT THREEoWOg-SHIFT-2n3dHALA ARCHAIC DIGIT EIGHTwFIVExOURwNINEwONEwSEVENxIXwTHREExWOqNUMBER EIGHTYxFIFTYyORTYxN",
    "INETYxONE HUNDRED#THOUSANDxSEVENTYyIXTYxTENyHIRTYyWENTYiLETTER AAYANNAqEEYANNArYANNAqIYANNAqLPAPRAANA BAYANNA!CAYANNA!DAYANNA#DAYANNA!GAYANNA!JAYANNA!KAYANNA!PAYANNA!TAYANNA#TAYANNAqMBA BAYANNAqUYANNAqYANNApDANTAJA LAYANNAxNAYANNAxSAYANNApEEYANNAqYANNApFAYANNApHAYANNApIIYANNAqLUUYANNAsYANNAqRUUYANNAsYANNAqYANNApKANTAJA NAASIKYAYApMAHAAPRAANA BAYANNA#CAYANNA#DAYANNA$DAYANNA#GAYANNA#JAYANNA#KAYANNA#PAYANNA#TAYANNA$TAYANNArYANNAqUURDHAJA LAYANNAzNAYANNAzSAYANNApOOYANNAqYANNApRAYANNApSANYAKA DAYANNAyDAYANNAxGAYANNAxJAYANNApTAALUJA NAASIKYAYAxSANYOOGA NAAKSIKYAYAzYANNApUUYANNAqYANNApVAYANNApYAYANNAjITH DIGIT EIGHTtFIVEuOURtNINEtONEtSEVENuIXtTHREEuWOtZEROiPUNCTUATION KUNDDALIYAiSIGN AL-LAKUNAoNUSVARAYAnCANDRABINDUnVISARGAYAiVOWEL SIGN AELA-PILLAtDIGA AEDA-PILLAyGAETTA-PILLA!YANUKITTAyIS-PILLAyKOMBUVAyPAA-PILLAtGAETTA-PILLAvYANUKITTAtKETTI AEDA-PILLAzIS-PILLAzPAA-PILLAuOMBU DEKAyVA! HAA AELA-PILLA(DIGA AELA-PILLA(GAYANUKITTAcX PETALLED BLACK AND WHITE FLORETTEfOINTED BLACK STARmPINWHEEL STARm",
    "STAR WITH MIDDLE DOTd-PER-EM SPACEdTEEN POINTED ASTERISKbKATEBOARDcI AND SKI BOOTdERcULLf AND CROSSBONESdNKbLANTED EQUAL TO OR GREATER-THAN) WITH DOT INSIDEuLESS-THAN% WITH DOT INSIDEiNORTH ARROW WITH HOOKED HEAD#RIZONTAL TAILdVONIC ASTERISKcEDdEPING ACCOMMODATIONjFACEjSYMBOLfY FACEdUTH OR SPYcICE OF PIZZAdGHTLY FROWNING FACEjSMILING FACEcOPEeING LARGE ANDoORdT MACHINEeHbMALL AIRPLANEhMPERSANDhSTERISKgBLUE DIAMONDgCOLONiMMAkERCIAL ATiNTAINS AS MEMBERpWITH OVERBARuVERTICAL BAR AT END OF HORIZONTAL STROKEgDOLLAR SIGNgELEMENT OFq WITH OVERBARwVERTICAL BAR AT END OF HORIZONTAL STROKEhM DASHhQUALS SIGNhXCLAMATION MARKgFULL STOPgGREATER-THAN SIGNgHYPHEN-MINUSgIDEOGRAPHIC COMMAgLEFT CURLY BRACKETlPARENTHESISlTORTOISE SHELL BRACKETiSS-THAN SIGNgNUMBER SIGNgORANGE DIAMONDgPERCENT SIGNhLUS SIGNgQUESTION MARKgREVERSE SOLIDUShIGHT CURLY BRACKETmPARENTHESISmTORTOISE SHELL BRACKEThOMAN NUMERAL EIGHTvLEVENuFIFTYwVEy HUNDREDvOURuNINEuONEx HUNDREDyTHOUSANDuSEVENvIXuTENvHREEvWELVEwOgSEMICOLONgTILDEhWO D",
    "OTS OVER ONE DOT PUNCTUATIONgVEE WITH UNDERBARfER THANm OR EQUAL TOdSH PRODUCTcILEeING CAT FACE WITH HEART-SHAPED EYESwOPEN MOUTHiFACE WITH HALOtEART-SHAPED EYEStORNSsOPEN MOUTH$ AND COLD SWEAT*SMILING EYES*TIGHTLY-CLOSED EYESsSMILING EYES& AND HAND COVERING MOUTH,THREE HEARTStUNGLASSESsTEARdRKING FACEcOKING SYMBOLbNAILdKEcEEZING FACEcOW CAPPED MOUNTAINeBOARDEReFLAKEeMANh WITHOUT SNOWbOcCCER BALLdKScFT HYPHENfICE CREAMfSHELL FLOPPY DISKeBALLeWARE-FUNCTION SYMBOLcGDIAN COMBINING CURVE ABOVEyBELOWsDOT ABOVEwBELOWsHOOK ABOVExBELOWsLONG HOOK BELOWsRESH BELOWsSTROKE BELOWsTWO DOTS ABOVE#BELOWiINDEPENDENT SHINiLETTER ALEPHqYINpBETHpFETHpGIMELpHErTHpKAPHpLAMEDHqESHpMEMpNUNpPEpRESH-AYINpSADHErMEKHqHINpTAWpWAWpYODHpZAYINiNUMBER ONEs HUNDREDpTENqWENTYiPUNCTUATION CIRCLE WITH DOTuHALF CIRCLE WITH DOTuTWO CIRCLES WITH DOTSyVERTICAL BARS: WITH DOTScHcLID QUILT SQUARE ORNAMENT# IN BLACK SQUAREfUSh WITH OVERBARcM SIGNcON WITH RIGHTWARDS ARROW ABOVEcRA SOMPENG DIGIT EIGHTtFIVEuOURtNINEtONEtSEVENuIXtTH",
    "REEuWOtZEROnLETTER AHuBAHuCAHuDAHuEEHvHuGAHuHAHuIHuJAHuKAHuLAHuMAEwHuNAHvGAHvYAHuOHuPAHuRAHuSAHuTAHuUHuVAHuYAHcScUND RECORDING COPYRIGHTdTH EAST ARROWq AND SOUTH WEST ARROWrCROSSING NORTH EAST ARROWrTO CORNERrWITH HOOKlBLACK ARROWlDOUBLE ARROWlPOINTING BUDuLEAFuVINE LEAFlSANS-SERIF ARROWlTRIANGLE-HEADED ARROW) TO BARlWHITE ARROWgWEST ARROWq AND NORTH WEST ARROWrWITH HOOKlBLACK ARROWlDOUBLE ARROWlPOINTING BUDuLEAFuVINE LEAFlSANS-SERIF ARROWlTRIANGLE-HEADED ARROW) TO BARlWHITE ARROWcYOMBO CLUSTER-INITIAL LETTER LA(RA(SA)HAiFINAL CONSONANT SIGN -A%B%D%G%K%L%M%N&G%R%S&HiGEMINATION MARKiHEAD MARK WITH MOON AND SUN, AND FLAME=TRIPLE FLAMEiLETTER -ApApBAqHApCAqHApDAqDArHAqHAqZApGAqHApHApJAqHApKAqHAqSSApLApMApNAqGAqNAqYApPAqHApRApSAqHAqSApTAqHAqSArHAqTArHApVApYApZAqHAiMARK DOUBLE SHADnPLUTAnSHADnTSHEGiSIGN ANUSVARAnJIHVAMULIYAnUPADHMANIYAnVISARGAjUBJOINERiTERMINAL MARK-1w2iVOWEL LENGTH MARKoSIGN AIuUtEtItOuEtUuEtVOCALIC L#RbPcAdCEdGHETTIdRKLEhSgING HEARTcEAK-NO-EVIL MONKEYfERh WITH CANCELLATIO",
    "N STROKEnONE SOUND WAVEnTHREE SOUND WAVESfING HEAD IN SILHOUETTEdECH BALLOONeDBOATdSMILO SIGNcHERICAL ANGLEp OPENING LEFTyUPcIDERg WEBdRAL CALENDAR PADhNOTE PADhSHELLcLASHING SWEAT SYMBOLcONGEdOL OF THREADeNdRTS MEDALdUTING WHALEbQUARE A OVER MiARUiMiNPEAiPAATOiRUHUAiUhBAARERUjRiEETAiIRUiORUTOiQiUSSYERUhC OVER KGiALjPiCiDiMj CUBEDkSQUAREDiOjRPORATIONiUPhDAjASUiBiESIiJiLiMj CUBEDkSQUAREDiORUhEEKAAiRA NAME HEISEIqMEIZIqREIWAqSYOUWAqTAISYOUjGiSUKUUDOiVhFMiOOTjUR CORNERShGALjNMAjRONiBiHZiIGAjNIIjRUDAAiPAiURAMUnTONiYhHAjITUiEKUTAARUjRUTUiGiIRAGANA HOKAiONjONkRUiPjAiUARADDOjIITOjRANiZhIMAGE OFp OR EQUAL TOtNOT EQUAL TOiNjINGUjTIiUhK OHMiAjIRIjRATTOkORIIiBiCALiEESUiGiHZiIROlGURAMUlMEETORUlWATTOiKiLiMj CAPITALlUBEDkSQUAREDiOOPOjRUNAiPAiTiUROONEkUZEIROiViWiYURIIhLEFT OPEN BOX OPERATORiMiNiOGjZENGEiXhM CUBEDjOHMkVER Sp SQUAREDjSQUAREDiAjHHAjIKUROkRUjNSYONjRUKUiBj SMALLiEETORUjGAlTONiGiHZiIKURONjLjRIlBAARUiLiMj CUBEDkSQUAREDiOLiPAiSiU AkFkGkLkMkSkVkWiVj MEGAiWj MEGAhNAjNOiFiMiOTTOiSiViWhONSUiOMUi",
    "RIGINAL OFs OR EQUAL TOwNOT EQUAL TOiVhPAj AMPSjASENTOkTUiCiEEZIjNIHIkSUjSOiFiHiIASUTORUjKOkURUiMiOINTOjNDOjSITION INDICATORiPMiRiSiViWhRADk OVER Sr SQUAREDiEMUjNTOGENiIGHT OPEN BOX OPERATORjRAjTTORUiOOTiUPIIjUBURUhSAIKURUjNTIIMUiENTIlOiIRINGUiRiVhTARGETiHZiONhUONhV OVER MhWATTOiBiITH BOTTOM HALF BLACKmCONTOURED OUTLINEmDIAGONAL CROSSHATCH FILLmHORIZONTAL FILLmLEFT HALF BLACKnOWER LEFT DIAGONAL HALF BLACKsRIGHT DIAGONAL HALF BLACKmORTHOGONAL CROSSHATCH FILLmRIGHT HALF BLACKmTOP HALF BLACKmUPPER LEFT DIAGONAL HALF BLACKxTO LOWER RIGHT FILLsRIGHT DIAGONAL HALF BLACKyTO LOWER LEFT FILLmVERTICAL FILLhYAADOkRUiUANgD ASTERISKiCJK UNIFIED IDEOGRAPH-4E00*9)2D)8C)A4&518D(21D)4D)72(3CC)F3(408)39(5B6(8F0(91A)29(B57(DE6(F8C&624B)53)95(307)55(599)B0(620(708*9(E80(F14&7121(51F)33(981(A7A(D42&89E3(CA9(D70&904A(14DjLjOOLiDOT OPERATORiEIGHT KiFALLING DIAGONAL SLASHjIVE POINT ONEjOUR DOT PUNCTUATIONnKjREEiHCjDRjI-RESjViIDiKATAKANA DErKOKOrSAjEYiLATIN CAPITAL LETTER A%B%C%D%E%F%G%H%I%J%K%L%M%N%O%P%Q%R%S%",
    "T%U%V%W%X%Y%ZoSMALL LETTER DjOGICAL ANDqORkSSLESSiMINUSjViNEWjGiOKjNE HUNDRED TWENTY PiPLUSjPViRISING DIAGONAL SLASHiSALTIREjDjECOND SCREENkVEN POINT ONEjHVjIXTY PjMALL CIRCLEjOSjQUAREjSiTHREE DjIMESjWENTY-TWO POINT TWOkO KiUHDjP WITH EXCLAMATION MARKiVODjSiWCeT BLACK RIGHTWARDS ARROWdIDbS2c3cAbTcADIUMdFF OF AESCULAPIUSjHERMESdMPED ENVELOPEdNDING PERSONdR AND CRESCENTfEQUALSfOF DAVIDgPERATORfWITH LEFT HALF BLACKkRIGHT HALF BLACKeT OF GUARDED AREAjHEADINGjPROTECTED AREAjSELECTED AREAkTRINGjTEXTdTIONeUE OF LIBERTYcEAM LOCOMOTIVEfING BOWLdNOGRAPHIC FULL STOPdTHOSCOPEcICK FIGUREm LEANING LEFTvRIGHTnWITH ARMS RAISEDsDRESScOCK CHARTdPWATCHcRAIGHT RULERiNESSeWBERRYdESS OUTLINED WHITE STARdICTLY EQUIVALENT TOeNG TERMINATORcScUDIO MICROPHONEdFFED FLATBREADdPAcXbUBdSCRIPT EIGHTlQUALS SIGNkFIVElOURkLEFT PARENTHESISkMINUSkNINEkONEkPLUS SIGNkRIGHT PARENTHESISkSEVENlIXkTHREElWOkZEROeET ABOVE RIGHTWARDS ARROWnSUBSETpPERSEThOFj ABOVE ALMOST EQUAL TOqEQUALS SIGNqNOT EQUAL TOqTILDE OPERATORkOR EQUAL TOv",
    " WITH DOT ABOVEkWITH NOT EQUAL TOhWITH DOTmMULTIPLICATION SIGN BELOWmPLUS SIGN BELOWeTITUTEcCCEEDSi ABOVE ALMOST EQUAL TOpEQUALS SIGNpNOT ALMOST EQUAL TOtEQUAL TOpSINGLE-LINE EQUALS SIGN#NOT EQUAL TOjBUT NOT EQUIVALENT TOjOR EQUAL TOpIVALENT TOjUNDER RELATIONcMMATION BOTTOMkTOPkWITH INTEGRALcNd BEHIND CLOUDeWITH FACEdDANESE AVAGRAHAkCONSONANT SIGN PAMINGKAL#NYAKRA%IKU#SANGAN MA+WAkDIGIT EIGHTqFIVErOURqNINEqONEqSEVENrIXqTHREErWOqZEROkLETTER AsErBAsHArCArDArEsUrFAsINAL KxMrGArHArIrJArKAsHArLAsEUrMArNAsGAsYArOrPArQArRAsEUrSAsYArTArUrVArWArXArYArZAkPUNCTUATION BINDU BA SATANGA$CAKRA$DA SATANGA$KA SATANGA$LEU SATANGA$PANGLONG%URNAMA$SURYAkSIGN PAMAAEHrNGLAYARtWISADsYECEKpVIRAMAkVOWEL SIGN PAMEPETxNAELAENGyEULEUNGyGHULUyOLONGyYUKUdFLOWERdRISEh OVER MOUNTAINSdSET OVER BUILDINGScPERHEROfSCRIPT EIGHTnQUALS SIGNmFIVEnOURmLATIN SMALL LETTER I(NnEFT PARENTHESISmMINUSmNINEmONEmPLUS SIGNmRIGHT PARENTHESISmSEVENnIXmTHREEnWOmZEROgET ABOVE LEFTWARDS ARROWpSUBSETrPERSETjBESIDE AND JOINED BY DASH WITH SU",
    "BSETqSUBSETjOFl ABOVE ALMOST EQUAL TOsEQUALS SIGNsNOT EQUAL TOsTILDE OPERATORmOR EQUAL TOx WITH DOT ABOVEmWITH NOT EQUAL TOjPRECEDING SOLIDUSjWITH DOToMULTIPLICATION SIGN BELOWoPLUS SIGN BELOWfVILLAINcRFACE INTEGRALeERcSHIdPENSION RAILWAYbWANdSH AMPERSAND ORNAMENTcIMMERcUNG DASHbYLOTI NAGRI LETTER AuBHOvOuCHOvOuDDHOwOvHOvOuEuGHOvOuHOuIuJHOvOuKHOvOuLOuMOuNOuOuPHOvOuROvROuSOuTHOvOvTHOwOuUnPOETRY MARK-1z2z3z4nSIGN ALTERNATE HASANTAtNUSVARAsDVISVARAsHASANTAnVOWEL SIGN AyEyIyOOyUcMBOL FOR ACKNOWLEDGElBACKSPACEmELLlCANCELnRRIAGE RETURNlDATA LINK ESCAPEmELETEr FORM TWOnVICE CONTROL FOUR!ONE!THREE#WOlEND OF MEDIUMsTEXTtRANSMISSION& BLOCKnQUIRYmSCAPElFILE SEPARATORmORM FEEDlGROUP SEPARATORlHORIZONTAL TABULATIONlLINE FEEDlMARKS CHAPTERlNEGATIVE ACKNOWLEDGEnWLINEmULLlRECORD SEPARATORlSAMARITAN SOURCEmHIFT INrOUTmPACEmTART OF HEADINGuTEXTmUBSTITUTEv FORM TWOmYNCHRONOUS IDLElTYPE A ELECTRONICSlUNIT SEPARATORlVERTICAL TABULATIONdMETRYcNdAGOGUEdCHRONOUS IDLEcRIAC ABBREVIATION MARKhBARREKHhCOLON SKEWE",
    "D LEFTuRIGHTjNTRACTIONhDOTTED ZLAMA ANGULARuHORIZONTALhEND OF PARAGRAPHiSASA ABOVEnBELOWhFEMININE DOThHARKLEAN ASTERISCUSqMETOBELUSqOBELUSiBASA ABOVEnBELOWm-ESASA DOTTEDiORIZONTAL COLONhLETTER ALAPHoBETHoDALATHpOTLESS DALATH RISHoEoFINAL SEMKATHoGAMALt GARSHUNIoHEqTHoKAPHoLAMADHoMALAYALAM BHAyJAyLLA!LAyNGAzNA!NAzYAyRAySSAyTTApIMoNUNoPEqRSIAN BHETHwDHALATHwGHAMALoQAPHoREVERSED PEpISHoSADHEpEMKATHpHINpOGDIAN FEwKHAPHwZHAINpUPERSCRIPT ALAPHoTAWpETHs GARSHUNIoWAWoYUDHs HEoZAINhMUSIChOBLIQUE LINE ABOVEuBELOWhPTHAHA ABOVEoBELOWoDOTTEDhQUSHSHAYAhRBASA ABOVEnBELOWiUKKAKHAiWAHAhSUBLINEAR COLONw SKEWED LEFT&RIGHTrFULL STOPjPRALINEAR COLONy SKEWED LEFTtFULL STOPhTHREE DOTS ABOVEsBELOWiWO VERTICAL DOTS ABOVEzBELOWhZQAPHA ABOVEoBELOWoDOTTEDeNGEaT-REXcSHIRTbABdLE TENNIS PADDLE AND BALLcCOcG AMPERSANDfPOSTROPHEfSTERISKeCIRCUMFLEX ACCENTfOLONgMMAiERCIAL ATeDIGIT EIGHTkFIVElOURkNINEkONEkSEVENlIXkTHREElWOkZEROfOLLAR SIGNeEQUALS SIGNfXCLAMATION MARKeFULL STOPeGRAVE ACCENTgEATER-THAN SIGNeHYPHEN-MINUSeLAT",
    "IN CAPITAL LETTER AzBzCzDzEzFzGzHzIzJzKzLzMzNzOzPzQzRzSzTzUzVzWzXzYzZkSMALL LETTER AxBxCxDxExFxGxHxIxJxKxLxMxNxOxPxQxRxSxTxUxVxWxXxYxZfEFT CURLY BRACKETjPARENTHESISjSQUARE BRACKETgSS-THAN SIGNfOW LINEeNUMBER SIGNePERCENT SIGNfLUS SIGNeQUESTION MARKgOTATION MARKeREVERSE SOLIDUSfIGHT CURLY BRACKETkPARENTHESISkSQUARE BRACKETeSEMICOLONfOLIDUSfPACEeTILDEeVERTICAL LINEdALOG LETTER AqRCHAIC RApBApDApGApHApIpKApLApMApNAqGApPApRApSApTApUpWApYAiSIGN PAMUDPODnVIRAMAiVOWEL SIGN ItUdBANWA LETTER AqBAqDAqGAqIqKAqLAqMAqNArGAqPAqSAqTAqUqWAqYAjVOWEL SIGN IuUcI LE LETTER ApIpUEoEpEpHoFAoHAoIoKApHAoLAoMAoNApGAoOpOoPApHAoQAoSAoTApHApONE-2t3t4t5t6pSAqHAoUpEoVAoXAoYAeTHAM COMBINING CRYPTOGRAMMIC DOTlNSONANT SIGN BAyFINAL NGAyHIGH RATHA OR LOW PAyLA TANG LAIzOW PAyMAzEDIAL LA(RAySAjHORA DIGIT EIGHTuFIVEvOURuNINEuONEuSEVENvIXuTHREEvWOuZEROjLETTER AqBAqDAqEEqGREAT SAqHIGH CAwHAvFAvHAvKAwHAwXAvPAwHAvRATHAvSAwHAwSAvTAwHAvYAqIrIqLAsErLArOW CAvHAuFAuHAuKAvHAvXAuPAvHAuRATHAuSAuTAvHAuYArUEqMAqNArGArYAqOOqRAsNAsTArUE",
    "qUrUqWAjSIGN CAANGoDOKMAIoHANGpOYoKAANsKUUpEOWpHUEN TONE-3z4z5t-LUE KARANoMAI KANGw LAIsSAMsYAMOKoRA HAAMpEVERSED ROTATED RANAoSAKOTqTKAANvKUUqWANoTONE-1t2oWIANGtWAAKjTHAM DIGIT EIGHTuFIVEvOURuNINEuONEuSEVENvIXuTHREEvWOuZEROjVOWEL SIGN AvAvEvIuEuIvIuMAI SATuOvA ABOVExBELOWvOvYuTALL AAvHAM AIuUvEvUwEeVIET LETTER HIGH BOvCHOwOvDOvFOvGOvHOvKHHOxOwOvLOvMOvNGOwOwYOvOvPHOwOvROvSOvTHOwOvVOvYOqLOW BOuCHOvOuDOuFOuGOuHOuKHHOwOvOuLOuMOuNGOvOvYOuOuPHOvOuROuSOuTHOvOuVOuYOjMAI KANGoHITjSYMBOL HO HOIqKOI KOIsNqNUENGqSAMjTONE MAI EKsNUENGsSONGsTHOjVOWEL AAqMqNqUEqYpEpIqApOpUqAqErAcKEOUT BOXdRI ABBREVIATION SIGNgDIGIT EIGHTmFIVEnOURmNINEmONEmSEVENnIXmTHREEnWOmZEROgLETTER AoAoIoRCHAIC KHAoUnBAoHAnCAoHAnDAoDApHAoHAnEnGAoHAnHAnIoInJAoHAnKAoHAnLAnMAnNAoGAoNAoYAnOnPAoHAnRAoRAnSAoHAnTAoHAoTApHAnUoUnVAnYAgSIGN ANUSVARAlNUKTAlVIRAMAnSARGAgVOWEL SIGN AAsIsUrErIsIrOrUsUcLLY MARK FIVElONEcMALEdIL AND ODD SIGNhS ABOVE SIGNhU LENGTH MARKgCREDIT SIGNhURRENT SIGNgDAY SIGNhEBIT SIGNhIGIT EIGHTmFIVEnOURmNINEmONEmSEVENn",
    "IXmTHREEnWOmZEROhRY CULTIVATION SIGNgFRACTION DOWNSCALING FACTOR KIIZHpONE EIGHTHyIETHtFIFTHuORTIETHtHALF-1y2tONE-HUNDRED-AND-SIXTIETHtQUARTERtSIXTEENTH-1%2xY-FOURTHtTENTHuHIRTY-SECONDvREE-HUNDRED-AND-TWENTIETHuWENTIETHpTHREE EIGHTIETHSvQUARTERSvSIXTEENTHSzY-FOURTHSvTWENTIETHSgIN POSSESSION SIGNgLAND SIGNhETTER AoAoIoUnCAnEoEnHAnIoInJAnKAnLAoLApLAnMAnNAoGAoNApNAoYAnOoOnPAnRAoRAnSAoHAoSAnTAoTAnUoUnVAnYAgMONTH SIGNgNUMBER ONE HUNDREDrTHOUSANDnSIGNnTENgOMgPUNCTUATION END OF TEXTgRUPEE SIGNgSALT PAN SIGNhIGN AAZHAAKKUmNUSVARAlCEVITUlKAACUmURUNInZHIlMUKKURUNInTHALIYAnUVUZHAKKUlNELlPAARAMnNAMnTHAKKUmONlUZHAKKUlVAKAIYARAAnRAAKANmELImIRAMAnSARGAhPENT SIGNhTARTING FROM SIGNgTOTAL SIGNhRADITIONAL CREDIT SIGNsNUMBER SIGNgVOWEL SIGN AAsIsUrEsErIsIrOsOrUsUgWET CULTIVATION SIGNgYEAR SIGNcNABATA TREEdGERINEeSA DIGIT EIGHTnFIVEoOURnNINEnONEnSEVENoIXnTHREEoWOnZEROhLETTER ACpQpWCqQqXqZpXpZoBAoCApHAoDApHAoECpQpXpZoFApINAL NGoGApHAoHApTAqTAoICpQpXpZoKApHAoLApONG UEXoMApCpQpXpZoNApGApHApYAoOCpQpXpZoPApHAoR",
    "AoSApHAqORT AWXuUEZoTApHApSAoUCpECqQqXqZpICqQqUCrQrXrZqXqZpQpXpZoVCpQpXpZoWAoXAoYAoZAeUT COMPONENT-001t2t3t4t5t6t7t8t9s10t1t2t3t4t5t6t7t8t9s20t1t2t3t4t5t6t7t8t9s30t1t2t3t4t5t6t7t8t9s40t1t2t3t4t5t6t7t8t9s50t1t2t3t4t5t6t7t8t9s60t1t2t3t4t5t6t7t8t9s70t1t2t3t4t5t6t7t8t9s80t1t2t3t4t5t6t7t8t9s90t1t2t3t4t5t6t7t8t9r100t1t2t3t4t5t6t7t8t9s10t1t2t3t4t5t6t7t8t9s20t1t2t3t4t5t6t7t8t9s30t1t2t3t4t5t6t7t8t9s40t1t2t3t4t5t6t7t8t9s50t1t2t3t4t5t6t7t8t9s60t1t2t3t4t5t6t7t8t9s70t1t2t3t4t5t6t7t8t9s80t1t2t3t4t5t6t7t8t9s90t1t2t3t4t5t6t7t8t9r200t1t2t3t4t5t6t7t8t9s10t1t2t3t4t5t6t7t8t9s20t1t2t3t4t5t6t7t8t9s30t1t2t3t4t5t6t7t8t9s40t1t2t3t4t5t6t7t8t9s50t1t2t3t4t5t6t7t8t9s60t1t2t3t4t5t6t7t8t9s70t1t2t3t4t5t6t7t8t9s80t1t2t3t4t5t6t7t8t9s90t1t2t3t4t5t6t7t8t9r300t1t2t3t4t5t6t7t8t9s10t1t2t3t4t5t6t7t8t9s20t1t2t3t4t5t6t7t8t9s30t1t2t3t4t5t6t7t8t9s40t1t2t3t4t5t6t7t8t9s50t1t2t3t4t5t6t7t8t9s60t1t2t3t4t5t6t7t8t9s70t1t2t3t4t5t6t7t8t9s80t1t2t3t4t5t6t7t8t9s90t1t2t3t4t5t6t7t8t9r400t1t2t3t4t5t6t7t8t9s10t1t2t3t4t5t6t7t8t9s20t1t2t3t4t5t6t7",
    "t8t9s30t1t2t3t4t5t6t7t8t9s40t1t2t3t4t5t6t7t8t9s50t1t2t3t4t5t6t7t8t9s60t1t2t3t4t5t6t7t8t9s70t1t2t3t4t5t6t7t8t9s80t1t2t3t4t5t6t7t8t9s90t1t2t3t4t5t6t7t8t9r500t1t2t3t4t5t6t7t8t9s10t1t2t3t4t5t6t7t8t9s20t1t2t3t4t5t6t7t8t9s30t1t2t3t4t5t6t7t8t9s40t1t2t3t4t5t6t7t8t9s50t1t2t3t4t5t6t7t8t9s60t1t2t3t4t5t6t7t8t9s70t1t2t3t4t5t6t7t8t9s80t1t2t3t4t5t6t7t8t9s90t1t2t3t4t5t6t7t8t9r600t1t2t3t4t5t6t7t8t9s10t1t2t3t4t5t6t7t8t9s20t1t2t3t4t5t6t7t8t9s30t1t2t3t4t5t6t7t8t9s40t1t2t3t4t5t6t7t8t9s50t1t2t3t4t5t6t7t8t9s60t1t2t3t4t5t6t7t8t9s70t1t2t3t4t5t6t7t8t9s80t1t2t3t4t5t6t7t8t9s90t1t2t3t4t5t6t7t8t9r700t1t2t3t4t5t6t7t8t9s10t1t2t3t4t5t6t7t8t9s20t1t2t3t4t5t6t7t8t9s30t1t2t3t4t5t6t7t8t9s40t1t2t3t4t5t6t7t8t9s50t1t2t3t4t5t6t7t8t9s60t1t2t3t4t5t6t7t8hITERATION MARKcPE CARTRIDGEfDRIVEcURUScXIbEACUP WITHOUT HANDLEdPOTdR-OFF CALENDAReDROP-BARBED RIGHTWARDS ARROWjSPOKED ASTERISKcDDY BEARcLEPHONE LOCATION SIGNkON TOP OF MODEMkRECEIVERs WITH PAGEnORDERkSIGNeSCOPEeVISIONdUGU AI LENGTH MARKhDIGIT EIGHTnFIVEoOURnNINEnONEnSEVENoIXnTHRE",
    "EoWOnZEROhFRACTION DIGIT ONE FOR EVEN POWERS OF FOUR&ODD POWERS OF FOURwTHREE FOR EVEN POWERS OF FOUR)ODD POWERS OF FOURxWO FOR EVEN POWERS OF FOUR&ODD POWERS OF FOURwZERO FOR ODD POWERS OF FOURhLENGTH MARKjTTER ApApIpUoBApHAoCApHAoDApDAqHApHApZAoEpEoGApHAoHAoIpIoJApHAoKApHAoLApLAqLAoMAoNAqKAARA POLLUpGApNApYAoOpOoPApHAoRApRAqRAoSApHApSAoTApHApSApTAqHAoUpUoVApOCALIC LxLwRxRoYAhSIGN ANUSVARAnVAGRAHAmCANDRABINDUnOMBINING ANUSVARA ABOVEwCANDRABINDU ABOVEmNUKTAmSIDDHAMmTUUMUmVIRAMAoSARGAhVOWEL SIGN AAtItUsEtEsItIsOtOsUtUsVOCALIC L#L!R#RcNGE SIGNdNIS RACQUET AND BALLdTcST TUBEcTRAGRAM FOR ACCUMULATIONpDVANCEpGGRAVATIONpSCENToBARRIERpOLD RESOLUTIONpRANCHING OUToCENTREpHANGEpLOSED MOUTHtNESSsUREpOMPLETIONtIANCEqNSTANCYrTACTsENTIONsRARIETYoDARKENINGpECISIVENESSqFECTIVENESS OR DISTORTIONqPARTUREpIFFICULTIESqMINISHMENTrMINGqVERGENCEpOUBTpUTIESoEASEpMBELLISHMENTpNCOUNTERSqDEAVOURqLARGEMENTpTERNITYpXHAUSTIONoFAILUREpLIGHTpOLLOWINGqSTERINGpULL CIRCLEsNESSoGATHERINGx INpOING TO MEETpREATNESSpUARDEDN",
    "ESSoHARDNESSpOLDING BACKoINCREASEqNERoJOYoKEEPING SMALLpINSHIPoLABOURINGqW OR MODELpEGIONoMASSINGpEASUREpIREDoON THE VERGEpPPOSITIONoPACKINGqTTERNpENETRATIONpURITYoREACHqLEASEqSIDENCEsSTANCErPONSEpITUALoSEVERANCEpINKINGpTOPPAGErVEqRENGTHoUNITYoVASTNESS OR WASTINGoWAITINGqTCHoYOUTHFULNESSbHAANA AABAAFILIiBAFILIhEBEFILIiEBEEFILIiYBEYFILIhIBIFILIhLETTER AINUpLIFUoBAAoCHAVIYANIoDAADHUqVIYANIpHAALUoFAAFUoGAAFUpHAINUpNAVIYANIoHAApHAAoJAVIYANIoKAAFUpHAAoLAAMUpHAVIYANIoMEEMUoNAApOONUoPAVIYANIoQAAFUoRAAoSAADHUpEENUpHAVIYANIqEENUoTAVIYANIpHAAsLUpOpTAAoVAAVUoWAAVUoYAAoZAAqVIYANIpOhOABOAFILIiBOFILIiOBOOFILIhSUKUNhUBUFILIdI CHARACTER ANGKHANKHUpBO BAIMAIpCHO CHANxGvINGvOEpDO CHADAsDEKpFO FAuNrNGMANpHO HIPsNOKHUKpKHO KHAIvONvUATvWAItRAKHANGsMUTqO KAIpLAKKHANGYAOqO CHULAsLINGqUpMAI CHATTAWAtEKtHAN-AKATtTHOuRIsTAIKHUsYAMOKqO MApNGO NGUqIKHAHITqO NENtUpO ANGpPAIYANNOIqHINTHUrO PHANvUNGtSAMPHAOqO PLApRO RUAqUpSARA AvAvEvI MAIMALAI#UANvMuEuIvIuOuUvEwEvUqO RUSIsSALAtOtUApTHANTHAKHATrO NANGMONTHOtPHUTHAOtT",
    "HAHANwNvONGvUNGqO PATAKsTAOpWO WAENpYAMAKKANqO YAKtINGgURRENCY SYMBOL BAHTfDIGIT EIGHTlFIVEmOURlNINElONElSEVENmIXlTHREEmWOlZEROcERE DOES NOT EXISTgEXISTSfFOREeMODYNAMICgMETERcIN GREEK CROSSfSALTIREgPACEeKING FACEdRD PLACE MEDALcONG SANDALdUGHT BALLOONcREE BUTTON MOUSEgCONSECUTIVE EQUALS SIGNSgDIMENSIONAL ANGLEhOT PUNCTUATIONgLEFTWARDS ARROWShINES CONVERGING LEFTxRIGHTgNETWORKED COMPUTERSgPOINTED BLACK STARgRAYS ABOVElBELOWlLEFTlRIGHThIGHTWARDS ARROWSgSPEECH BUBBLESf-D BOTTOM-LIGHTED RIGHTWARDS ARROWHEADiLEFT-LIGHTED DOWNWARDS EQUILATERAL ARROWHEADiRIGHT-LIGHTED UPWARDS EQUILATERAL ARROWHEADiTOP-LIGHTED LEFTWARDS EQUILATERAL ARROWHEADuRIGHTWARDS ARROWHEAD(EQUILATERAL ARROWHEADgEM DASHgPER-EM SPACEcUMBS DOWN SIGNhUP SIGNdNDER CLOUD AND RAINhSTORMbIBETAN ASTROLOGICAL SIGN -KHYUD PA!SDONG TSHUGS#GRA GCAN -CHAR RTAGSiCANTILLATION SIGN CANG TE-U!HEAVY BEAT!LIGHT BEAT!SBUB -CHALiDIGIT EIGHToFIVEpOURoHALF EIGHTtFIVEuOURtNINEtONEtSEVENuIXtTHREEuWOtZEROoNINEoONEoSEVENpIXoTHREEpWOoZEROiKU RU KHAr",
    " BZHI MIG CANiLETTER -ApApBAqHApCAqHApDAqDArHAqHAqZArHApFIXED-FORM RApGAqHApHApJApKAqHAqKAqSSApLApMApNAqGAqNAqYApPAqHApRAqRApSAqHAqSApTAqHAqSArHAqTArHApWApYApZAqHAjOGOTYPE SIGN CHAD RTAGSwLHAG RTAGSiMARK ANG KHANG GYASzONnBKA- SHOG GI MGO RGYANxYIG MGOoSDUS RTAGSpKA- SHOG GI MGO RGYANqUR YIG MGOnCARET -DZUD RTAGS BZHI MIG CAN(ME LONG CANtYIG MGO PHUR SHAD MAoHE MGOoLOSING BRDA RNYING YIG MGO SGAB MAvYIG MGO SGAB MAnDELIMITER TSHEG BSTARnGTER TSHEGsYIG MGO -UM GTER TSHEG MA&RNAM BCAD MA!TRUNCATED AoUG RTAGS GYASzONnHALANTAnINITIAL BRDA RNYING YIG MGO MDUN MAvYIG MGO MDUN MApTERSYLLABIC TSHEGnLEADING MCHAN RTAGSnMNYAM YIG GI MGO RGYANnNGAS BZUNG NYI ZLAySGOR RTAGSoYIS SHADsTSHEGx SHADnPALUTAnRGYA GRAM SHADoIN CHEN SPUNGS SHADnSBRUL SHADoHADnTRAILING MCHAN RTAGSoSA -PHRUpHEG SHADnYIG MGO TSHEG SHAD MAiSIGN GRU CAN RGYINGSrMED RGYINGSnINVERTED MCHU CANnLCE TSA CANpI RTAGSnMAR TSHESoCHU CANnNYI ZLA NAA DAnRDEL DKAR GCIGyNYISySUMxRDEL NAGsNAG GCIGxNYISxSUMwRDEL DKARoJES SU NGA ROoNAM BCADnSN",
    "A LDANnYANG RTAGSpR TSHESjUBJOINED LETTER -AzAzBA!HAzCA!HAzDA!DA#HA!HA!ZA#HAzFIXED-FORM RA.WA.YAzGA!HAzHAzJAzKA!HA!SSAzLAzMAzNA!GA!NA!YAzPA!HAzRAzSA!HA!SAzTA!HA!SA#HA!TA#HAzWAzYAzZA!HAsSIGN INVERTED MCHU CANxLCE TSA CANxMCHU CANjYLLABLE OMkMBOL DRIL BUpNOR BUv BZHI -KHYILwGSUM -KHYILwNYIS -KHYILpPADMA GDANqHUR PApRDO RJEw RGYA GRAMiVOWEL SIGN AAtEuEtIuItOuOtREVERSED I%ItUuUtVOCALIC L$L#R$RcCKETcE OVER INFINITYcFINAGH CONSONANT JOINERjLETTER AHAGGAR YAZHrYER YAGHqBERBER ACADEMY YAH*JqTAWELLEMET YAZrUAREG YAGH!NzHzK!HzNGzQzZHqYAsAsBtHsCHsDtDuHtHsFsGtHuHsHtHsJsKtHuHsLsMsNsPsQsRtRsStHtSsTtHtTsVsWsYsZtHtZrEsYrIrOrUjMODIFIER LETTER LABIALIZATION MARKjSEPARATOR MARKcGERf FACEdHT TRIFOLIATE SNOWFLAKEcLDEf OPERATORo ABOVE LEFTWARDS ARROWvRIGHTWARDS ARROWpWITH DOT ABOVEuRISING DOTSgWITH DOT ABOVEpBELOWlRING ABOVEcMER CLOCKeS WITH LEFT HALF BLACKlRIGHT HALF BLACKcNYe TWO DOTS OVER ONE DOT PUNCTUATIONcRED FACEdHUTA ABBREVIATION SIGNjNJIiDIGIT EIGHToFIVEpOURoNINEoONEoSEVENpIXoTHREEpWOoZEROiGVANGiLE",
    "TTER AqAqIqUpBAqHApCAqHApDAqDArHAqHApEpGAqHApHApIqIpJAqHApKAqHApLApMApNAqGAqNAqYApOpPAqHApRApSAqHAqSApTAqHAqTArHApUqUpVAqOCALIC LyLxRyRpYAiOMiSIGN ANUSVARAoVAGRAHAnCANDRABINDUnNUKTAnVIRAMApSARGAiVOWEL SIGN AAuIuUtEtIuItOtSHORT EzOtUuUtVOCALIC L$L#R$RdONIAN SIGN CAPITAL EToETbOILETcKYO TOWERcMATOcNGUEcOLBOXdTHfBRUSHcP ARC ANTICLOCKWISE ARROW# WITH PLUSiCLOCKWISE ARROW WITH MINUSeCURLY BRACKETeHALF BLACK CIRCLEjINTEGRALjLEFT PARENTHESISjRIGHT PARENTHESISjSECTION SIGNgTeLEFT CORNERkROPjHALF BRACKETePARENTHESISeRIGHT CORNERlROPkHALF BRACKETeSQUARE BRACKETeTORTOISE SHELL BRACKETeWITH UPWARDS ARROW ABOVEcRTOISE SHELL BRACKETED CJK UNIFIED IDEOGRAPH-4E09~8C_52DD|B89_6253|557|72C_70B9|6D7zLATIN CAPITAL LETTER ScTAL RUNOUTdO LETTER AnEmBAnREATHY AEuEvOuIvUmCHAmDAmEnOmGAmHAmInUmJAmKAmLAmMAmNAnGAmOmPAmRAmSAmTAmUmWAmYAfSIGN RISING TONEbRACKBALLeTORdDE MARK SIGNdINdMe CARdNSPLUTOfVERSAL INTERSECTIONcIANGLE WITH DOT ABOVEoROUNDED CORNERSoSERIFS AT BOTTOMoUNDERBARi-HEADED RIGHTWARDS ARROWgULAR BULLET",
    "lFLAG ON POSTlRULERdCOLONdDENT EMBLEMdGRAM FOR EARTHmFIREmHEAVENmLAKEmMOUNTAINmTHUNDERmWATERnINDdPLE COLON OPERATORhDAGGERhHORIZONTAL BAR WITH DOUBLE VERTICAL STROKE#TRIPLE VERTICAL STROKEhINTEGRALhNESTED GREATER-THANoLESS-THANhPLUSiRIMEhSOLIDUS BINARY RELATIONhTILDEhVERTICAL BAR BINARY RELATIONuDELIMITERuRIGHT TURNSTILEuWITH HORIZONTAL STROKEcOLLfEYBUSdPHYeICAL DRINKjFISHcUEe LIGHT MOON ARTAdMPETbUGRIK SIGNcLIPcMBLER GLASScRKEYeISH LIRA SIGNdNED AMPERSANDiNGLEhBLACK PENTAGONnSHOGI PIECEhCAPITAL FiOMMAhDAGGERiIGIT THREEoWOhGREEK SMALL LETTER IOTAhNORTH EAST POINTING LEAFnWEST POINTING LEAFjT SIGNhOK HAND SIGNhSANS-SERIF CAPITAL G!L!YiEMICOLONiMALL FiOUTH EAST POINTING LEAFnWEST POINTING LEAFhWHITE SHOGI PIECEdTLEbWELVE POINTED BLACK STARcISTED RIGHTWARDS ARROWScO ASTERISKS ALIGNED VERTICALLYeBUTTON MOUSEeCONSECUTIVE EQUALS SIGNSeDOT LEADERiPUNCTUATIONhS OVER ONE DOT PUNCTUATIONeHEARTSeINTERSECTING LOGICAL ANDzOReJOINED SQUARESeLOGICAL AND OPERATORmOR OPERATOReMEN HOLDING HANDSeSPEECH B",
    "UBBLESeWOMEN HOLDING HANDSd-EM DASHaUGARITIC LETTER AINrLPAqBETAqDELTArHALqGAMLArHAINqHOsTAqIqKAFrHAqLAMDAqMEMqNUNqPUqQOPAqRASHAqSADEsMKArHINrSUqTETrHANNArOqUqWOqYODqZETArUjWORD DIVIDERbMBRELLAi ON GROUNDjWITH RAIN DROPSbNAMUSED FACEcCERTAINTY SIGNcDERTIEdO SYMBOLcICORN FACEdONf ABOVE BAR ABOVE INTERSECTIONmINTERSECTIONgBESIDE AND JOINED WITH UNIONgWITH LOGICAL ORlMINUS SIGNlOVERBARdT SEPARATOReED SYMBOLdVERSAL RECYCLING SYMBOLcMARRIED PARTNERSHIP SYMBOLbP ARROW THROUGH CIRCLEiHEADm BETWEEN TWO HORIZONTAL BARSnIN A RECTANGLE BOXdBARB LEFT DOWN BARB LEFT HARPOONxRIGHT HARPOONiRIGHT DOWN BARB LEFT HARPOONyRIGHT HARPOONdDOWN ARROWn WITH BASEiBLACK ARROWiDOUBLE ARROWiSANS-SERIF ARROWiTRIANGLE-HEADED ARROWiWHITE ARROWdFISH TAILdRIGHT DIAGONAL ELLIPSISdTACKh WITH CIRCLE ABOVEc-POINTING AIRPLANEmMILITARY AIRPLANEmRED TRIANGLEmSMALL AIRPLANEsRED TRIANGLEmTRIANGLE WITH LEFT HALF BLACK!RIGHT HALF BLACKcPER AND LEFT AND LOWER TRIANGULAR THREE QUARTERS BLOCKlOWER ONE EIGHTH BLOCKqTRIANGULAR HALF B",
    "LOCKkRIGHT AND LOWER TRIANGULAR THREE QUARTERS BLOCKgBLADE SCISSORSgFIVE EIGHTHS BLOCKgHALF BLOCKq AND LOWER HALF INVERSE MEDIUM SHADElCIRCLElINVERSE MEDIUM SHADE AND LOWER HALF BLOCKtWHITE CIRCLElMEDIUM SHADEgLEFT BLOCK DIAGONAL LOWER CENTRE TO LOWER MIDDLE RIGHT?UPPER MIDDLE RIGHT|RIGHT)LEFT TO LOWER MIDDLE RIGHT=UPPER CENTRE^MIDDLE RIGHT)MIDDLE LEFT TO UPPER CENTRE~PER MIDDLE RIGHT~PER RIGHT!UPPER MIDDLE LEFT TO UPPER CENTRE~PER RIGHTlCORNER WITH DOTlOR LOWER RIGHT CURLY BRACKET SECTIONlQUADRANT CIRCULAR ARClTO LOWER RIGHT FILLmRIANGLErULAR MEDIUM SHADEgONE EIGHTH BLOCKkQUARTER BLOCKgRIGHT BLOCK DIAGONAL LOWER MIDDLE LEFT TO LOWER CENTRE~OWER RIGHT#UPPER CENTRE TO LOWER MIDDLE RIGHT~RIGHT@UPPER MIDDLE RIGHT*LEFT TO LOWER CENTRE_MIDDLE RIGHT>UPPER MIDDLE RIGHT*MIDDLE LEFT TO LOWER CENTRE~OWER MIDDLE RIGHT~OWER RIGHTmDROP-SHADOWED WHITE SQUAREmOR LOWER LEFT CURLY BRACKET SECTIONmPENCILmQUADRANT CIRCULAR ARCmSHADOWED WHITE CIRCLE#SQUAREmTO LOWER LEFT FILLnRIANGLEsULAR MEDIUM SHADEgSEVE",
    "N EIGHTHS BLOCKgTHREE EIGHTHS BLOCKmQUARTERS BLOCKhRIANGULAR ONE QUARTER BLOCKcSIDE-DOWN FACEcWARDS ANCORAjRROWn AND RIGHT ONE EIGHTH BLOCKoFROM BARoLEFTWARDS OF DOWNWARDS ARROWoTO BARoWITH DOUBLE STROKEtEQUILATERAL ARROWHEADtHORIZONTAL STROKEtLARGE TRIANGLE ARROWHEADtMEDIUM TRIANGLE ARROWHEADtNOTCHED TAILtSMALL EQUILATERAL ARROWHEADzTRIANGLE ARROWHEADtTIP LEFTWARDSxRIGHTWARDSiBLACK ARROWoCIRCLED WHITE ARROWiCOMPRESSED ARROWiDASHED ARROWjOUBLE ARROWiFINGER-POST ARROWiHARPOON WITH BARB LEFT BESIDE DOWNWARDS HARPOON WITH BARB RIGHT;UPWARDS HARPOON WITH BARB RIGHT(FROM BAR(TO BAR&WARDS!RIGHT FROM BAR)TO BAR(WARDSjEAVY ARROWoCOMPRESSED ARROWiPAIRED ARROWSiQUADRUPLE ARROWiROCKETiSANS-SERIF ARROWjQUARED ARROWiTRIANGLE ARROWHEADq-HEADED ARROW% LEFTWARDS OF DOWNWARDS TRIANGLE-HEADED ARROW&TO BAR&WITH BOLD SHAFT,DOUBLE HORIZONTAL STROKE,HEAVY SHAFT,LONG TIP LEFTWARDS[RIGHTWARDS,MEDIUM SHAFT,NARROW SHAFT,VERY HEAVY SHAFTyDASHED ARROWyPAIRED ARROWSlPLE ARROWjWO HEADED ARROWl-HEADED ARROW FROM SMA",
    "LL CIRCLEzWITH TRIANGLE ARROWHEADSiWHITE ARROWt FROM BAR$ WITH HORIZONTAL BARuON PEDESTAL( WITH HORIZONTAL BAR:VERTICAL BARuWITHIN TRIANGLE ARROWHEADoDOUBLE ARROW! ON PEDESTALbRANUSbSaVAI COMMAeDIGIT EIGHTkFIVElOURkNINEkONEkSEVENlIXkTHREElWOkZEROeFULL STOPeQUESTION MARKeSYLLABLE AoNnBAoEpEoHApEqEpIpOqOpUoIoOpOoUnCAoEpEoIoOpOoUnDAoEpEoHApEqEpHAqErEqIqOrOqUpIpOqOpUoIoOpOoUnEoEpNoNnFAoEpEoIoOpOoUnGAoBApEqEqNpIpOqNqOpUoEpEpNoIoOpOoUnHApNoEpEpNoIpNoOpNpOoUpNnIoNnJAoEpEoIoOpOoUnKApNoEpEoIoOpOoPAqNpEqEqNpIpOqOpUoUnLAoEpEpNGTHENERoIoOpOoUnMAoBApEqEpIpOqOpUoEpEoGBAqErEqIqOrOqUoIoOpOoUnNAoDApEqEpIpOqLE DOtFAtKAtMAtSOOqOpUoEpEoGpANpENpGAqErErNqIqOrOqUpONoIoJApEqEpIpOqOpUoOpOoUoYApEqEpIpOqOpUnOoNoOpNnPAoEpEoIoOpOoUnRAoEpEoIoOpOoUnSAoEpEoHApEqEpIpOqOpUoIoOpOoUnTAoEpEoHApEqEpIpOqOpUoIoOpOoUnUoNnVAoEpEoIoOpOoUnWApNoEpEqNpNoIpNoOpNpOqNoUpNnYAoEpEoIoOpOoUnZAoEpEoHApEqEpIpOqOpUoIoOpOoUgMBOL BANGlDANGmO-OnONGlFAAmEENGlJONGlKEENGmUNGlNIIlTAAmINGmONGcMPIREcRIATION SELECTOR-1u0v0v1v2v3v4v5v6v7v8v9u1v0v1v2v3",
    "v4v5v6v7v8v9u2v0v1v2v3v4v5v6v7v8v9u3v0v1v2v3v4v5v6v7v8v9u4v0v1v2v3v4v5v6v7v8v9u5v0v1v2v3v4v5v6v7v8v9u6v0v1v2v3v4v5v6v7v8v9u7v0v1v2v3v4v5v6v7v8v9u8v0v1v2v3v4v5v6v7v8v9u9v0v1v2v3v4v5v6v7v8v9t2u0v0v1v2v3v4v5v6v7v8v9u1v0v1v2v3v4v5v6v7v8v9u2v0v1v2v3v4v5v6v7v8v9u3v0v1v2v3v4v5v6v7v8v9u4v0v1v2v3v4v5v6v7v8v9u5v0v1v2v3v4v5v6u6u7u8u9t3u0u1u2u3u4u5u6u7u8u9t4u0u1u2u3u4u5u6u7u8u9t5u0u1u2u3u4u5u6u7u8u9t6u0u1u2u3u4u5u6u7u8u9t7u0u1u2u3u4u5u6u7u8u9t8u0u1u2u3u4u5u6u7u8u9t9u0u1u2u3u4u5u6u7u8u9bECTOR OR CROSS PRODUCTcDIC SIGN ANUSVARA ANTARGOMUKHAuBAHIRGOMUKHAuUBHAYATO MUKHAuVAMAGOMUKHA( WITH TAILmRDHAVISARGAmTIKRAMAlDOUBLE ANUSVARA ANTARGOMUKHAlHEXIFORM LONG ANUSVARAlJIHVAMULIYAlLONG ANUSVARAlNIHSHVASAlREVERSED VISARGA ANUDATTA$UDATTAmOTATED ARDHAVISARGAmTHANG LONG ANUSVARAlTIRYAKlUPADHMANIYAlVISARGA ANUDATTA# WITH TAILtSVARITAtUDATTAz WITH TAILlYAJURVEDIC MIDLINE SVARITAgTONE ATHARVAVEDIC INDEPENDENT SVARITAlCANDRA ABOVEsBELOWlDOT BELOWnUBLE RING ABOVEsSVARITAlKARSHANAnTHAKA ANUDATTAlPRENKHAlRIGVEDIC KAS",
    "HMIRI INDEPENDENT SVARITAnNG ABOVElSHARAlTHREE DOTS BELOWmRIPLE SVARITAmWO DOTS BELOWlYAJURVEDIC AGGRAVATED INDEPENDENT SVARITAwINDEPENDENT SVARITAwKATHAKA INDEPENDENT SVARITA~ SCHROEDERcRSICLEdTICAL BAR BESIDE RIGHT TRIANGLEnDOUBLE LEFT TURNSTILEnTRIPLE RIGHT TURNSTILEnWITH HORIZONTAL STROKEjELLIPSISjFOUR DOTSjIDEOGRAPHIC ITERATION MARKjKANA REPEAT MARKz LOWER HALF!UPPER HALFvWITH VOICED SOUND MARK@ UPPER HALFjLINEn EXTENSIONoWITH CIRCLE ABOVE!BELOWtMIDDLE DOTjMALE WITH STROKE SIGNjONE EIGHTH BLOCK-2!3!4!5!6!7jSIX DOTSjTAB KEYmULATIONt SETkILDEkRAFFIC LIGHTjZIGZAG LINEdY BOLD GREEK CROSSfHEAVY EIGHT POINTED BLACK STARrSPOKED ASTERISKlFIVE SPOKED ASTERISKlGREEK CROSSlREVERSE SOLIDUSlSALTIREmIX SPOKED ASTERISKmOLIDUSlWHITE CIRCLErSQUAREfMUCH GREATER-THANkLESS-THANcSTAbIBRATION MODEcCTORY HANDcDEO CAMERAgGAMEfCASSETTEcETNAMESE ALTERNATE READING MARK CA+NHAYdWDATA SQUAREcOLINcRGOcTHKUQI CAPITAL LETTER AyBBEzEyCEzHEyDEzHEyEzIyFEyGAyHAzHAyIzJEyJEyKAyLAzLAyMEyNEzJEyOyPEyQAyREySEzHEyTEzHEyUyV",
    "EyXEyYyZEjSMALL LETTER AwBBExEwCExHEwDExHEwExIwFEwGAwHAxHAwIxJEwJEwKAwLAxLAwMEwNExJEwOwPEwQAwREwSExHEwTExHEwUwVEwXEwYwZEbOIDED GREEK CROSScLCANOdLEYBALLdUME INTEGRALbS1d0e0e1e2e3e4e5e6e7e8e9d1e0e1e2e3e4e5e6e7e8e9d2e0e1e2e3e4e5e6e7e8e9d3e0e1e2e3e4e5e6e7e8e9d4e0e1e2e3e4e5e6e7e8e9d5e0e1e2e3e4e5e6e7e8e9d6e0e1e2e3e4e5e6e7e8e9d7e0e1e2e3e4e5e6e7e8e9d8e0e1e2e3e4e5e6e7e8e9d9e0e1e2e3e4e5e6e7e8e9c2d0e0e1e2e3e4e5e6e7e8e9d1e0e1e2e3e4e5e6e7e8e9d2e0e1e2e3e4e5e6e7e8e9d3e0e1e2e3e4e5e6e7e8e9d4e0e1e2e3e4e5e6e7e8e9d5e0e1e2e3e4e5e6d6d7d8d9c3d0d1d2d3d4d5d6d7d8d9c4d0d1d2d3d4d5d6d7d8d9c5d0d1d2d3d4d5d6d7d8d9c6d0d1d2d3d4d5d6d7d8d9c7d0d1d2d3d4d5d6d7d8d9c8d0d1d2d3d4d5d6d7d8d9c9d0d1d2d3d4d5d6d7d8d9bTcSbULCANUSdGAR FRACTION FIVE EIGHTHSvSIXTHSrOUR FIFTHSqONE EIGHTHuFIFTHuHALFuNINTHuQUARTERuSEVENTHvIXTHuTENTHvHIRDqSEVEN EIGHTHSqTHREE EIGHTHSwFIFTHSwQUARTERSrWO FIFTHSuTHIRDSqZERO THIRDSaWAFFLEcNCHO DIGIT EIGHTnFIVEoOURnNINEnONEnSEVENoIXnTHREEoWOnZEROhLETTER ApAqNrGpNGpUoBAoCAoDAoEpNoFAoGAoHAoIpNGoJAoKApHAoLApLHAoMAoN",
    "ApGApYAoOpNqGoPApHAoRAoSApHAoTApHApRApSAoUpENoVAoWAoYApIHoZAhNGUN SIGNhTONE KOIpNImTUPpNIdING CRESCENT MOON SYMBOLhGIBBOUS MOON SYMBOLcRANG CITI CAPITAL LETTER A$M$NG$T#BU#DA#E$NN%Y#GA#HAR$IYO$OLO%RR#II#KO#NGAA$UNG#O$DD#PU#SII$SUU#TTE#UC$U#VIYO#WI#YA$O$U%JmDIGIT EIGHTsFIVEtOURsNINEsONEsSEVENtIXsTHREEtWOsZEROmNUMBER EIGHTYtFIFTYuORTYtNINETYtSEVENTYuIXTYtTENuHIRTYuWENTYmOMmSMALL LETTER A!M!NG!TzBUzDAzE!NN#YzGAzHAR!IYO!OLO#RRzIIzKOzNGAA!UNGzO!DDzPUzSII!SUUzTTEzUC!UzVIYOzWIzYA!O!U#JdNING SIGNcSTEBASKETcTCHdER BUFFALOgCLOSETgPOLOgWAVEfMELONcVE ARROW POINTING DIRECTLY LEFT%RIGHTfDASHdING BLACK FLAGhHAND SIGNhWHITE FLAGdY DASHfLINEgOW LINEfOVERLINEcXING CRESCENT MOON SYMBOLhGIBBOUS MOON SYMBOLbEARY CAT FACEgFACEcDDINGdGE-TAILED RIGHTWARDS ARROWcIERSTRASS ELLIPTIC FUNCTIONdGHT LIFTERcST SYRIAC CROSSbHALEcEELf OF DHARMAfCHAIR SYMBOLcITE ARROW SHAFT WIDTH ONEyTWO THIRDSgBULLETgCHESS BISHOPs ROTATED NINETY DEGREES#TWO HUNDRED SEVENTY DEGREESmEQUIHOPPERw ROTATED NINETY DEGREESmKINGq ROTATED NINETY",
    " DEGREESzTWO HUNDRED SEVENTY DEGREESnNIGHTs ROTATED FORTY-FIVE DEGREES#NINETY DEGREES#ONE HUNDRED THIRTY-FIVE DEGREES#THREE HUNDRED FIFTEEN DEGREES$WO HUNDRED SEVENTY DEGREES<TWENTY-FIVE DEGREESs-BISHOPtQUEENtROOKmPAWNq ROTATED NINETY DEGREESzTWO HUNDRED SEVENTY DEGREESmQUEENr ROTATED NINETY DEGREES!TWO HUNDRED SEVENTY DEGREESmROOKq ROTATED NINETY DEGREESzTWO HUNDRED SEVENTY DEGREESmTURNED BISHOPtKINGuNIGHTtPAWNtQUEENtROOKhIRCLEm CONTAINING BLACK SMALL CIRCLEnWITH DOT RIGHTuWN ARROWsLOWER LEFT QUADRANTyRIGHT QUADRANTsTWO DOTSsUPPER LEFT QUADRANTyRIGHT QUADRANThLUB SUIThONCAVE-SIDED DIAMOND# WITH LEFTWARDS TICK*RIGHTWARDS TICKgDIAMONDn CONTAINING BLACK MEDIUM DIAMOND(SMALL DIAMOND(VERY SMALL DIAMONDoIN SQUAREoSUIToWITH CENTRED DOThOWN POINTING BACKHAND INDEXuINDEXuLEFT HAND INDEXk-POINTING SMALL TRIANGLEuTRIANGLEhRAUGHTS KINGpMANgEXCLAMATION MARK ORNAMENTgFLAGk WITH HORIZONTAL MIDDLE BLACK STRIPEiORETTEjWERhOUR POINTED CUSPtSTARhROWNING FACEgHARD SHELL FLOPPY DISKhEARTl SUITjVY CHECK MA",
    "RKmSALTIRE WITH ROUNDED CORNERSiXAGONhORIZONTAL ELLIPSEiURGLASSgLARGE SQUAREiTIN CROSShEFT LANE MERGElPOINTING BACKHAND INDEXuINDEXk-POINTING POINTERuSMALL TRIANGLEuTRIANGLEhOZENGE CONTAINING BLACK SMALL LOZENGEgMEDIUM DIAMONDnLOZENGEnSMALL SQUAREoQUAREoTARhOON SELENAgNIBgPARALLELOGRAMhENNANTjTAGONgQUESTION MARK ORNAMENTgRECTANGLEhIGHT POINTING BACKHAND INDEXvINDEXl-POINTING PENTAGONwOINTERvSMALL TRIANGLEvTRIANGLEgSCISSORShESAME DOThHOGI PIECEhMALL LOZENGEmSQUAREnTARiILING FACEhPADE SUIThQUAREm BUTTONnCONTAINING BLACK MEDIUM SQUARE&SMALL SQUARE&VERY SMALL SQUAREnWITH CENTRE VERTICAL LINEsLEFTWARDS TICKtOWER LEFT QUADRANTyRIGHT QUADRANTsRIGHTWARDS TICKtOUNDED CORNERSsUPPER LEFT QUADRANTyRIGHT QUADRANTsVERTICAL BISECTING LINEhTARhUNj BEHIND CLOUDw WITH RAINkWITH RAYSpSMALL CLOUDgTELEPHONEhOUCHTONE TELEPHONEhRAPEZIUMiIANGLE CONTAINING SMALL WHITE TRIANGLEhWO-WAY LEFT WAY TRAFFICgUP POINTING BACKHAND INDEXsINDEXi-POINTING CHEVRONsSMALL TRIANGLEsTRIANGLE! WITH DOTgVERTICAL BARpELLIPSEpRECTA",
    "NGLEjY SMALL SQUAREf-FEATHERED RIGHTWARDS ARROWbIDE-HEADED DOWNWARDS BARB ARROWwHEAVY BARB ARROWwLIGHT BARB ARROWwMEDIUM BARB ARROWwVERY HEAVY BARB ARROWmLEFTWARDS BARB ARROWwHEAVY BARB ARROWwLIGHT BARB ARROWwMEDIUM BARB ARROWwVERY HEAVY BARB ARROWmNORTH EAST BARB ARROWxHEAVY BARB ARROWxLIGHT BARB ARROWxMEDIUM BARB ARROWxVERY HEAVY BARB ARROWsWEST BARB ARROWxHEAVY BARB ARROWxLIGHT BARB ARROWxMEDIUM BARB ARROWxVERY HEAVY BARB ARROWmRIGHTWARDS BARB ARROWxHEAVY BARB ARROWxLIGHT BARB ARROWxMEDIUM BARB ARROWxVERY HEAVY BARB ARROWmSOUTH EAST BARB ARROWxHEAVY BARB ARROWxLIGHT BARB ARROWxMEDIUM BARB ARROWxVERY HEAVY BARB ARROWsWEST BARB ARROWxHEAVY BARB ARROWxLIGHT BARB ARROWxMEDIUM BARB ARROWxVERY HEAVY BARB ARROWmUPWARDS BARB ARROWuHEAVY BARB ARROWuLIGHT BARB ARROWuMEDIUM BARB ARROWuVERY HEAVY BARB ARROWcGGLY VERTICAL LINEcLTED FLOWERcND BLOWING FACEfCHIMEeOWdE GLASSdKING FACEcRED KEYBOARDbJbOLF FACEcMANf WITH BUNNY EARSfS BOOTShCLOTHEShHAThSANDALdENS SYMBOLcN SIGNcODcRD JOINERfSEPARATOR MID",
    "DLE DOTdLD MAPdMdRIED FACEbRAPPED PRESENTcEATH PRODUCTdNCHdSTLERScITING HANDaX IN A RECTANGLE BOXb-RAYbIANGQI BLACK CANNONpHARIOToELEPHANToGENERALoHORSEoMANDARINoSOLDIERiRED CANNONnHARIOTmELEPHANTmGENERALmHORSEmMANDARINmSOLDIERbORaYAWNING FACEbELLOW HEARTcN SIGNcZIDI COMBINING HAMZA MARKrMADDA MARKhHYPHENATION MARKhLETTER BEoCHHIMqIMpIMoDADqLoELIFpTpWpYNoFAoGAFoHAYpHAoJAoKAFpHAFoLAMr WITH DOT ABOVEoMIMoNUNoOWoPEpHEoQAFoRApHAoSADpEpHINpINoTApHEoUMoVAq ALTERNATE FORMoWAWoXApHEYNoYOTr WITH CIRCUMFLEX ABOVEoZAqLpEbI RADICAL BBUTmURlCHEmIPmUOPmYnPnTlDDURmUlGAmEPmGOPnUOmOTlHMOmXITnOPnUOlJJIEnUTnYmOlKEmITlLInEmYRlMImOPlNBIEmYIPnOPmZUPlOPlPUTmYTlQOTlSHATnOPnURnYmSIlTATmUlVEPmURlWOlYITmOlZAmOTmUPnRmZIETdSYLLABLE AnPnTnXmBAoPoToXnBApPpTpXoEpPpXoIpEqPqTqXpPpTpXoOpPpTpXoUpOqPqXpPpRqXpTpXoYpPpTpXnEoPoXnIoEpPpTpXoPoToXnOoPoToXnUoOpPpXoPoRpXoToXnYoPoRpXoToXmCAoPoToXnEoPoXnHApPpTpXoEpPpTpXoOpPpTpXoUpOqPqTqXpPpRqXpXoYpPpRqXpTpXnIoEpPpTpXoPoToXnOoPoToXnUoOpPpXoPoRpXoToXnYoPoRpXoToXmDAoPoToXnDApPpTpXoEpP",
    "pXoIpEqPqXpPpTpXoOpPpTpXoUpOqPqXpPpRqXpTpXnEoPoXnIoEpPpXoPoToXnOoPoToXnUoOpXoPoRpXoToXmEnXmFAoPoToXnIoPoToXnOoPoXnUoPoRpXoToXnYoPoToXmGAoPoToXnEoPoToXnGApPpTpXoEpPpTpXoIpEqPqXpTpXoOpPpTpXoUpOqPqTqXpPpRqXpTpXnIoEpPpTpXoPoToXnOoPoToXnUoOpPpTpXoPoRpXoToXmHAoPoToXnEoPoXnIEpXoTnLApPpTpXoEpPpXoIpEqPqXpPpTpXoOpPpXoUpOqPqXpPpRqXpTpXoYpPpRqXpTpXnMApPpTpXoIpEqPqXpPpTpXoOpPpTpXoUpOqPqXpPpRqXpTpXoYpPpRqXpXnNApPpTpXoEpPpXoIpEqPqTqXpPpTpXoOPpTpXoUOqXpTnOoPoToXnUOpPpTpXnXApPpTpXoEpPpXoIpEqPqTqXpPpTpXoOpPpTpXoUOqPqTqXmInEoPoToXnPnToERATION MARKnXmJIoEpPpTpXoPoToXnJIpEqPqTqXpPpTpXoOpPpTpXoUpOqPqXpPpRqXpTpXoYpPpTpXnOoPoToXnUoOpPpTpXoPoRpXoToXnYoPoRpXoToXmKAoPoToXnEoPoToXnIoEpPpXoPoToXnOoPoToXnUoOpPpXoPoRpXoToXmLAoPoToXnEoPoXnIoEpPpTpXoPoToXnOoPoToXnUoOpPpTpXoPoRpXoToXnYoPoRpXoToXmMAoPoToXnEoXnGApPpTpXoEpPpXoIEqXoOpPpTpXoUpOqPqXpPpRqXpTpXnIoEpPpXoPoToXnOoPoToXnUoOpPpTpXoPoRpXoToXnYoPoToXmNAoPoXnBApPpTpXoIpEqPqXpPpTpXoOpPpTpXoUpPpRqXpTpXoYpPpRqXpTpXnDApPpTpXoEpPpXoIpEqXpPpTpXoOpPpTpXoUpPpRqXpTpXnEoPoXnGAp",
    "PpTpXoEpPpXoIEqPqXoOpPpTpXoUOqTqXnIoEpPpXoPoToXnJIpEqPqTqXpPpTpXoOpPpTpXoUpOqXpPpRqXpXoYpPpRqXpTpXnOoPoToXnRApPpTpXoEpPpTpXoOpPpXoUpPpRqXpTpXoYpPpRqXpTpXnUoOpPpXoPoRpXoToXnYIpEqPqTqXpPpTpXoOpPpTpXoUpOqPqXpPpTpXnZApPpTpXoEpXoIpEqPqXpPpTpXoOPpXoUpOqXpPpRqXpXoYpPpRqXpTpXmOnPnTnXmPAoPoToXnIoEpPpXoPoToXnOoPoToXnUoOpPpXoPoRpXoToXnYoPoRpXoToXmQIoEpPpTpXoPoToXnOoPoToXnUoOpPpTpXoPoRpXoToXnYoPoRpXoToXmRAoPoToXnEoPoXnOoPoToXnRApXoEpPpTpXoOpPpTpXoUpOqXpPpRqXpTpXoYpPpRqXpTpXnUoOpPpXoPoRpXoToXnYoPoRpXoToXmSAoPoToXnEoPoXnHApPpTpXoEpPpTpXoOpPpTpXoUpOqPqXpPpRqXpTpXoYpPpRqXpTpXnIoEpPpXoPoToXnOoPoToXnSApPpTpXoEpPpXoIpEqPqXpPpTpXoOpPpTpXoUpPpTpXoYpPpRqXpTpXnUoOpPpXoPoRpXoToXnYoPoRpXoToXmTAoPoToXnEoPoXnIoEpPpXoPoToXnOoPoToXnUoOpPpTpXoPoRpXoToXmUOoPoXmVAoPoToXnEPoXnIoEpPpTpXoPoToXnOoPoToXnUoPoRpXoToXnYoPoRpXoToXmWAoPoToXnEoPoXnOoPoXnUoOpPpXmXIoEpPpTpXoPoToXnOoPoToXnUOpXnYoPoRpXoToXmYIoEpPpTpXoPoToXnOoPoToXnUoOpPpTpXoPoRpXoToXnYoPoRpXoToXmZAoPoToXnEoPoXnHApPpTpXoEpPpTpXoOpPpTpXoUpOqPqXpPpRqXpTpXoYpPpRqXpTpXn",
    "IoEpPpXoPoToXnOoPoToXnUoOpPpXoPoRpXoToXnYoPoRpXoToXnZApPpTpXoEpPpXoIpEqPqTqXpPpTpXoOpPpXoUpPpRqXpXoYpPpRqXpTpXcN YANGbO-YOaZ NOTATION BAG MEMBERSHIPlDOMAIN ANTIRESTRICTIONlLEFT BINDING BRACKETqIMAGE BRACKETlRANGE ANTIRESTRICTIONmELATIONAL COMPOSITIONmIGHT BINDING BRACKETrIMAGE BRACKETlSCHEMA COMPOSITIONsPIPINGtROJECTIONmPOTlTYPE COLONbANABAZAR SQUARE CLOSING DOUBLE-LINED HEAD MARKzHEAD MARKtUSTER-FINAL LETTER LA;RA;VA;YAzINITIAL LETTER RArFINAL CONSONANT MARKrINITIAL DOUBLE-LINED HEAD MARKzHEAD MARKrLETTER -AyAyBAzHAyCAzHAyDAzDA!HAzHAzZA!HAyGAzHAyHAyJAyKAzHAzSSAyLAyMAyNAzGAzNAzYAyPAzHAyRAySAzHAzSAyTAzHAzSA!HAzTA!HAyVAyYAyZAzHArMARK DOUBLE SHADwLONG TSHEGwSHADwTSHEGrSIGN ANUSVARAwCANDRA WITH ORNAMENT$BINDU* WITH ORNAMENTwVIRAMAySARGAsUBJOINERrVOWEL LENGTH MARKxSIGN AI%U$E$I$O%E$REVERSED I$U%EbEBRA FACEcRO WIDTH JOINERlNO-BREAK SPACEnN-JOINERlSPACEcUSbIPPER-MOUTH FACEbNAMENNY COMBINING ATTACHING VERTICAL OMETtLOWER TONAL RANGE INDICATORtMARK BORZAYAyCHASHKA( POLNAYAzURVED OMETyDEMESTVENN",
    "Y ZADERZHKAzVOETOCHIEyGORAZDO NIZKO ON LEFT>RIGHT;S KRYZHEM ON LEFT~N RIGHT)VYSOKOyKACHKAzRYZH% ON LEFTzUPNAYAyLOMKAyMALO POVYSHE ON LEFT=RIGHT:S KHOKHLOM ON LEFT~N RIGHT=RYZHEM;TRANNOyNIZKO ON LEFT*RIGHT&S KRYZHEM ON LEFT@RIGHTyOBLACHKOzNzTSECHKAyPODCHASHIE+ WITH VERTICAL STROKE#VERTKA!VYSHE ON LEFT,RIGHT)S KHOKHLOM ON LEFT^RIGHT,RYZHEM*TRANNOyRAVNO!ZSEKAySKOBAzOROCHYA NOZHKAzREDNE ON LEFT+RIGHTzTRANNO MALO POVYSHEyTIKHAYAzOCHKAzSATA ON LEFT*RIGHT&S KRYZHEMyUDARKAyVYSOKO ON LEFT+RIGHT(S KHOKHLOM ON LEFT]RIGHT+RYZHEMyZADERZHKAzELO!VOKtTONAL RANGE MARK MRACHNO.SVETLO.TRESVETLOjNEUME CHASHKArELYUSTKApDEMESTVENNY KLYUCHrRBITSAqOUBLE ZAPYATAYAqUDAqVA V CHELNUpFITApGOLUBCHIK BORZYzMRACHNYzSVETLYzTIKHY!RESVETLYpKHAMILOqLYUCHqOBYLAqRYUKu TIKHYsZHqUFISMApMECHIKv KLYUCHENEPOSTOYANNY%POVODNY%VOYwPOVODNYpNEMKApOBLAKOqSOKAu KLYUCHEVAYA NEPOSTOYANNAYA*SVETLAYAwRYUKOVAYA SVETLAYAvSVETLAYAvTRESVETLAYApPALKArRAKLITrUKqEREVODKAy NEPOSTOYANNAYAqODCHASHIErLKULIZMYpREVERSED CHELYUSTKAqOGpSKAMEYTSA DVOECHE",
    "LNAYA KLYUCHEVAYA;NEPOSTOYANNAYA;PROSTAYA;SVETLAYAzKLYUCHENEPOSTOYANNAYA)VAYA SVETLAYA:TIKHAYAzMRACHNAYAzSVETLAYAzTIKHAYA!RESVETLAYAqLOZHITIEy S KRYZHEM#ZAPYATOYzZAKRYTOEqTATYAv NEPOSTOYANNAYAwS DVUMYA ZAPYATYMIyKRYZHEM( I ZAPYATOYyROGOMyZAPYATOY) I KRYZHEM,PODCHASHIEMwZAKRYTAYA( S ZAPYATOYrOPITSAx S OCHKOMyWITH SOROCHYA NOZHKArRELA DVOECHELNAYA+ KLYUCHEVAYA(OKRYZHEVAYA)POVODNAYA> KLYUCHEVAYAwGROMNAYA& WITH SINGLE ZAPYATAYA!OKRYZHEVAYA: POVODNAYA#POVODNAYA. WITH DOUBLE ZAPYATAYA?SINGLE ZAPYATAYAwKLYUCHENEPOSTOYANNAYA%POVODNAYAxRYUKOVAYA) GROMNAYA> WITH SINGLE ZAPYATAYA:OKRYZHEVAYA| POVODNAYA;POVODNAYA_ WITH DOUBLE ZAPYATAYA~ITH SINGLE ZAPYATAYA*POVODNAYA*TRYASKAzZHEVAYAwMRACHNOTIKHAYAwNEPOSTOYANNAYAwPOLUPOVODNAYAyVODNAYAxROSTAYAwTIKHAYA PUTNAYAxRYASOGLASNAYA$POVODNAYA$STRELNAYApVRAKHIYA KLYUCHEVAYA MRACHNAYA.PROSTAYA.SVETLAYA.TRESVETLAYAyMRACHNAYAyPROSTAYAySVETLAYAyTRESVETLAYApZANOZHEKrPYATAYAqMEYTSAjPRIZNAK MODIFIER DIRECTION FLIP!KRYZH!LEVEL-2)3!ROGbOMBIEbWJcNBSPdJcSP"]

set_option maxRecDepth 4000 in
/-- The code points of the names, in their order. -/
def codeData : String :=
  String.join [
    "%0&T%#)m%#3h%$)P,(mP+NuS+Fl03Y$5k%$&k%!BQ$KLW%VXVnyjWRn]agdUjV#bR#Ugdk[to#W#]~^dkVWt#yrUQZa]QUQS^UR#SRyQ#vXVnyjWRn]agdUjV#bR#Ugdk[to#W#]~^dkVWtX$J3R$M+_#Cs#>Ki$pRRR$[vdu#[#b#[#nvdw#[#nvd#Pvdu#[$Qvd|vdu#[#pvdu#[#f#[#V#[#nvdw#[#nvdzRVSR$mQ#>!p%+:u#E?eTQ#YUQZa]QUQS#bbWsVr#w$eb$ZR$YRT[^p#VRl$l$u[Q%U$eeR]Tgb$fRaRqxQQV#dRbRUQWRZWR#<:P$O8iQ%##pDc%!3a&x$cRn#Q$Y#pRRRW$f#a#X$VR$U$W$bRR~cWT$qvYVR[%^RRRR_oRS&^Q#U$X#yR#_#U%tRXd#y#Z#vRR&dS&W$]$k%ekpZXR#l%P$rReSRuzRR$l%zR#g#p#W^#y$c$nkhfR$[ej^$j%r$_R#R#edWb$S#b#q#nRfRw%[%#*Z#:T.BV%,>Q$OIe.g*Gl*GiS$0SOwL_#JP$N9QFV%,4T%,6e#(D_RRRRRRRRRRRRRRRRRRRRRRRRRRRRRRRRRRRRRRRRRRRRRRRRRRRRRRRRRRRRRRRRRRRRRRRRRRRRRRRRRRRRRRRRRRRRRRRRRRRRRRRRRRRRRRRRRRRRRRRRRRRRRRRRRRRRRRRRRRRRRRRRRRRRRRRRRRRRRRRRRRRRRRRRRRRRRRRRRRRRRRRRRRRRRRRRRRRRRRRRRRRRRRRRRRRRRRRRRRRRRRRRRRRRRRRRRRRRRRRRRRRRRRRRRRRRRRRRRRRRRRRRRRRRRRRRRRRRRRRRRRRRRRRRRRRRRRRRRRRRRRRRRRRRRRRRRRRRRRRRRRRRRRRRRRRRRRRRRRRRRRRRRRRRRRRRRRRRRRRRRRRRRRRRRRRRRRRRRRRRRRRRRRRRRRRRRRRRRRRRRRRRRRRRRRRRRRRRRRRRRRRRRRRRRRRRRR",
    "RRRRRRRRRRRRRRRRRRRRRRRRRRRRRRRRRRRRRRRRRRRRRRRRRRRRRRRRRRRRRRRRRRRRRRRRRRRRRRRRRRRRRRRRRRRRRRRRRRRRRRRRRRRRRRRRRRRRRRRRRRRRRRRRRRRRRRRRRRRRRRRRRRRR#)Nz%!@i3t$N>z%!*o$%Y]$N:~%!Iv%!JX$O9y$NLl.V$N1r#Mz%!0b$NAz>[$2]W$DWR#d#aV0KZ,AQW$gd#^#t#i#j#enaq#W#fnR#Sg#TWj#im$a$vZycj#j$ZX#^%v[#oi^wQxh#djcjW$RR#v^vUn[#^$U#w$Wa$RfYf|XiWS#a$3v1&s(k,3We$0Y$0Zl#&m+.qBhFyVWVQVC|#>CvR#=NyES#>Cp#>Fl&bBa#WR&a9YQk+y$]#>CtR#=OZQCsw#>Cn#>BR&|,s:a@]RT^#>CxR#=ObDn#>Cr#>!sURV#qT>f;lTQbC[#>HoRSV#>C|=p4vQT3g#>FqQ#>ES#>IpQ#>Gs#=GqQ#=.nbVqXnedeQVafVW1WQ4l#>FeQ#>F]#>FiQ#>)Q@j#>FcQ#>(tfV=cRb#=GaRSV#=K]#>FsRSV#>9Q4m4d5d5a4a4lTRR,v#=GgRSV#=KP#>H[RSV#>?W(V#=HxQ#=MV#>GnQ#>CaRZ,c(P&o]>[4v,f#=HrQ#=Hy#=I[Q#=Jc$b$^#e#=HxQ#=I]#=HdRSV#=D|#=JXRSV#=Je#=KgRSV#=ClQQ3gTQV#>HoRSV#>DX<w<xV+rQ+Y#=GyRSV#=0U<tXS(j#>HuRSV#>?w:WZ=s#=GyRSV#=NY#>GbRSV#>7w0n=Z2PUQ.u,uQ,x&g#>Fa#>Dj(i#=H_RSVKj#>Cu#=HPRSV#=HQ#>CvSV#>AQ$y#=G|Q#=KdRRT%h#>GZRSV#>%bR#n=[#=HlQ#=Lg#>H|RSV#>DV=X=YV,q5^)b#=HPRSV#=?f5b5^2p2s2t@mAY#>GhRSV#>@j#=JhQ#=J[#=JdQ#>!i#>ITRSV#>;g+a<S",
    "#i=mTR<^Ci#y#>IZRSV#>;yR3z<h#=KQRSV#=Jy#=HXRSV#=MZ#>Ib#>C|#=G|QLUSV#>DT:k:d+PR*~*y.k#=HnRSV#=El#=JVQ#=Md#=GcRSV#=+P_=y#=FnRSV#=Kb#>HuRSV#>DX<qr=c(h#>GrQ#>CSTV,u(t9l=w._4[>lV,Y,T,w+W#=HPRSV#=0|>R#=IQQ#=MZ#>HURSV#>C^=l=m&y#>GvRSV#>CU.j#h#km,xR,q3i#>G~RSV#>>v9d?u$p(_#>HcRSV#>*r;w;z#S>V#=HpRSV#=FU<y?g#=HvRSV#=MZ#>F|RS#>Fz#>Fy#>?q#>?pZ#>CY?l_?wT#=GyRSV#=Kn#>GpQ#>Gw#>GTRSV#>)U=c#=HbRSV#=+_@R#=G|RSV#=De#=JPQ#=Mn#=M|hR#=Jk#=JVQ#=Kx#=FjRSV#=Jy#>InQ#>C^;V3YQ4t#>FgQ#>>~](z)_#=GkQ#=?nQ*r#=GmQKtRSV#>Kg#>FkRSV#>>vQX:|Qv<V#=JVQ#>!s#>HiRSV#>Hx#>GtQ#>&|#=Au#]$u)q4e%o1^)q4iSR$z*h#]0o*p*y+WVSR+k$a.bR+dl7m&o)x*P9n2f%S%Z*P*U*P7z3Y$b*P.T(bUZ&o&h7p.U#]%t)s4c$v0f)s)x)s4cR+k)s1Z#]z#])g%f)l)q)p)q)v)q4gR+q)q7n4R%f.j#]$u)q)t)q4kSR&m#]#i#]%~)s8q1w)s4QQ$w#]+Q)V)Y)])Y3zR+o)W8o.^#]&W)s7n#U1y)s7n%nR%i)[#])Q%b%i%Z)_)g)f)g)l)g%^%[)g+X&w%[)g+X,mbi3[%Z.f#].u)r)s)v)q1V#]<eQBZ%TEZQVQUQ>t)c3~S$f$c+aW)c4UQ$nSm.e)c4SR0z%^)c*|*WR#q2n%T%W$y)Z)a4QRR+s)a4Y]Y$b0V)a4YR#|3U%a)a5t5o8u5m$y)V)[4aQ#c.[#W#_)[4i#oY#hR$X0])[$z%c)[*e+RQ1gUZ$",
    "y$rk%b)j)m)p)m4a$h$e$b3[%b9l*peRRRRYp*s8R,W#]%x)q4SR%W0fR)s4U&d*V#]x#],a#sXc*x+b+S$e#]%j)q2Q#u#~%b$q)q2Q#|Q+S)q2Q(^#c1y)q,^(kRRRR$m#]f#]*X)t)yT)t)o)t)yX+f#]#yb#n$V$XR%S(j%_$rb#n$V$_%Rb#n$Vsb#n#l)PRRR%V#]l#]0y+W$u#]$u)s1h1e1t$jRRR&i#])Q&o)v)|4URR+S$z%T)|7v%p%o0p)|7v%l%k3S$_)|,y+~%lQT%i3UUZ&o&h#P#e&s,u,x&t$V)w,u(PUZ&s&l(tRS<s5g$s)R)W5P9wQQQ(w&oiRS*i*P*W%Y%b*P*U$a$d*R.](j(bQ(^(_QQQ(q&ooQ([(mx#R)W5T,t)W$t%e)W*S+PRx2XUZ$s$l#u)q1t#=Do@XZDk%(2moR#U#P#WTQT)pm#U#PlhyY~iRRZRSU]ilVSsXty)|hy#wm#UchyUSbliRRZQU]RRk#tbli)VoR#U#PlhyUS~iRRZRSU]ilVSsXty(nR.lQ.^RSU]&Zm#UVTmhyUSblgRZQU]ilRkt(]%^fXTWyY~iTZQU]g$cVSsXty%)(mYHQQTCU>m8p.WBwBRApBr%|DQZU=e,p$h#>CzR#>FzSXQoliU0qR.wZEPEQEn<];r#Q=SQ,R+~Qnif]<SQ<d<a<f=RF],YZ=p&Y%Wa_QXutT<d;hTE[V,u;x<_<S$mQT9aRa)^WBo#>#^R#>%p#=2bRdSRXRRgRRRYRbRXER#>D]#>DY#>&[RR=|BsVYVSVFfE~%z?UQQZ[%v&jUQZa]QUQS&UTR+#oKZ,&vY#xRjh[n#_RTR#cyolY]fd|UbTpgd^XU[b#P~[gbl#]X#m$_$cR$TR$[ZVRjh[n#_RTR#cyolY]fd|UbTpgd^XU[b#Pc#c[gbx[#]X#a#=OsRSXQ#4&|RS$O3p$O3q$O3pHq#6gHT$NHe#6Gd#7Ds,<k,5|:t%#(i$ML",
    "h#5T#1P%!$|$NJY$N=W%!+f%#,kIkEP#;*g$mRXSVRUS#cReXRyR#QgRR#ei#_Rha#c[UUTQXQ#]RxpTTTR#ZRVoR#a#ZTQ#WQ]T#;M^3~#Bs]0x*uCx3k&w$NFY#!yT0Oz%.Lh#7b#;Q#=b#;SDrCl%%5a#WTQ[UQZa]QUQS$|gR%[Q#jRuRhR[R#w$m]R#a$QRvRaR$]R#T#hR#aYYeZgR~RZ#jR#sSRoYRZ#o$wR$z#XU#c#w[_WQVWVYWTY]YU]SYT#SRUXUSQQQ#V#m#b[#m(lS$_$[SQ$tRZRcRURZRTQgRR#q%%;p(o#LY$N8U$O(S$O8l$O8g]S$O8l#=i$MKP$O8f$O8e$O*]H6fWRXS%vX%c#jnQ$Wa$]#Rd#i[rQY%Z#SqX$VTs#X$ZX^$[$by#U$[#s#z#oQQW#_zaZX#o$UQyQX#eY#.=e$k#gYh#y#_#f#w[#bR#g#[#n|$d%T#g#_#oz$i$Vhn$[Q[#Uq#Pi%s$Qh#g%]$l%X#Q#Q#[W$W$vWm#rdq$j]m$o#Ud#oe#pSp#tQbQ#ol#xc$hT$q$_yljp$g$f#V#~]#km#on$bSyc[#s#TTw$Z#]m#s$U$]YR$QV#eu#Ugd[sz#X#q|ZR^#YU$cl#^wZs]#Ye#_pRs#oY#frhVyW&jW#nbex%QQ#f#v%QS%Pd$T^co$j#f#X#q]w$S%YW%_$P#t%[W#rs#s#vz$VR$e$p|V%Z#yum%m&S$j#X#k#R[#f[%Qih^#a$kt#V#YzVow#g#Z#dQcx%iQ%t#u#W$^$xk$QU%W$gi#UYq#d$zb$^Ys%w)P%rS$h%VY#u#R#a#ao$c$n#b$f^#d#V$T%l&x%P$bo$k#Q%U(]&du$a#e#j#||#x#sT[V$ph#t#jip#W$k%eafu$e$P#V$R$|#S%a&Uj#RWT%u%n%m#tj~#W#h#|g&^#w$P#b]#q$QQ$Z%Rj$n#PX%]&_&SoX%yQbW$c~$g%o^#lY#c%P&h|$q$R%fdfb#uT",
    "s+X#X%[#P#TQe$T%Pr#Zjw#Ul$^k(o#z#h#_%i#UY)W$j$[%u$S$g(Y#r$kq#i(Qgn%T$ol([%~$w)t%f#v#c%c#~$t$mV$T$[#U%f$Q%e#j#b)R%n#P$_%_#^$v%dw%[$Ye%i|$mV&ft&s%ez&o#q$QZu&duXw[#Y#Q[d(Tjj$n#|r%Z#^$e#|#j$W&V#e&S&d)Q)P(RVo#Yz$p~R)[$V$~$ou#_&z#oU&g#lu(W$|zs%w%n$a$d%i(d$j|$ls#i%f#Y$fQQ$W$bQ#k#q#v#mo#U_$[ti#mR#_#iTW#l#s#n#WQUyfXT^Qo#WUh#l#|i#VQ#Uz#jS#QkaSW[$T$[$digWS#0$q[od$Q$ts#lQ#g#g$aQS#g#PcUWe%WSW%R$ls^UT$]ZQ$)#U$!r#Ij,mRRU#Q#7w#:y$NJg%!5a#DUJKPXUTQVmYUa_nQ#ZVV_Uxya_WzRWwpdeVahSo_L:r%%.kQ$YZ#^qUi#kye#Ueq]rd#X#WY[d#V]Z]#Rni#^ekh]kr[p#Xr#SRk#USVS#PTRRTQW]R%$9mR9a3a$oR$NCdR%!Cg#Hq#<n#8i#6n%#<n%!EmLn#O|%01w%,EP#>_%#;Q$OLs9h%*8z(t&R#kSUXSQ^UQZa]QUQS~Q(dRfX#URwRhYRZ#TbR#i$^RzRaR$l#]W[ofYg#SRZ%QQwQ#nSRwR[R#RR(^(X%|%~%|$[$ZxRh(r$r$s$rt%d$rfXYaRheR#gR#fR,2T$M1f$O=Q+hDv3d%#;Z#73f#SUQZa]QUQSmTR#u(PRfT#SRuRhYRZ#P]R#a$QRvRaR#YUYofYg#QRZZSRoR[R|R#q#jSR#g$pdUcbcZds]dedYTcbc#bVWVQofTUaRdaRVSRn#69xT$N=xQ$MLy#;y#Cp$NGp$NMW*l#Cc%#NT%$1q$OFlDj,l%!:~#|lV%!=t%!:~#|%!<q%!:djd#|ci#kSR%!=v%!:~#|%!=T%!:~#|%!<w%!:~#|yUXRWR%!Bg:t#",
    "@vMaQ#p)X#2jRZSVSUR#@W#AY#,k#.|#;TNw$N1y$ONZ%!9k$ONxS#@T#3vQ$N9o$N;z+T$O$~$O&U$O%W[$O0v#2df4v4gc#*q$O)V$O3|?QX%!9a$ONfSS#:y%(p#>UQ#(R3l#Of$)~$*T$*W*d#On$*W$N3Q]$OMYS=S$)~#6U&X#1y#Ba$O!T$M:b$MM]$NOf8n$O9V$O3|?UX%!9g$N7b#<mSS:V##PV$#b%(r$M4o$N@mT.y$O2U=pd$N9vR#;f#=^#6i)h&s+y$O4q$MAs$)k=bYn$OLU]s=c$O&ec&Y$O.r$ONZ%!9i$OO[S$_R#>T(V#;f%!!m]$N;XMgQQ#Gp#hZhjHe%#5lTXbpp#R#eo#Zp#eq#P#co#_bp#eqbo#Zp#eo#R#co#bXbp#eq#R#eo#Zp#e#r#co#_bp#eq#P#co#Zp#eo#R#co$*v.n+h$y#DP#JQ#!eik_j$[f#>Hn#>!v#6_#*w&S%Xd#=c$M9wWQSR*X*o*f)pT)kT)X)a)n*x*Y)^Wgx)_)[TXT(|(x#bZ*|)g(i#W+Q#U](ySdg(x#V)t)w+V+Y+R+[X#g)R(vyx)pkRgQ)W#ZhZVWg#c)T(~#TZW)l#W$K<a$MKg#9t$+_$6V%&oR%&vs%%R$Ia+uw%%V$K[R$P$OA~0n&n4y#(j#=p$ODr#MsR#,moUW#WiUc#[cUZoU#l#b~#Vt#ku#b#U#]z#s#aoUYT$R%_#fWm(i](dT(W(dT(^$w#f&n&uy%a#fa#k#Tbbgbr^$PQTRV%#,QiXRZcfkbW_ebWZ%#+wQ#pT#y%f#]Wi%#3d%#,Pb(bT(Q(]T(Wb%b#]Wu$p#Ta#|#TbbkbrY#oiU#VauiXa$_sksdk%uiUxcU#_#Xa#e#Xa%kcU%!=i#4YAd%.%k#E.|#uUQZa]QUQS#b%TRfT#SRuRhYRZ#P]R#a$QRvRaR#Y]cYofYg&n$|TQ$rR%fRZZSRoR[R|R#q#jRUR#g$TdUcbc#|#pdsv",
    "RkdedYTcbc^URRT%hQV(S(PS%WmhTidaRd$XR$kRVRUR#:2_RTXbr#g$~(|$|&e(|$|(X$~(|$|&e(|$|(j#g$~(|$|&e(|$|(X$~(|$|&e(|$|(rr#g$~(|$|&e(|$|(X$~(|$|&e(|$|(j#g$~(|$|&e(|$|(X$~(|$|&e(|$|(vbr#g$~(|$|&e(|$|(X$~(|$|&e(|$|(j#g$~(|$|&e(|$|(X$~(|$|&e(|$|(rr#g$~(|$|&e(|$|(X$~(|$|&e(|$|(j#g$~(|$|&e(|$|(X$~(|$|&e(|$|(xXbr#g$~(|$|&e(|$|(X$~(|$|&e(|$|(j#g$~(|$|&e(|$|(X$~(|$|&e(|$|(rr#g$~(|$|&e(|$|(X$~(|$|&e(|$|(j#g$~(|$|&e(|$|(X$~(|$|&e(|$|(vbr#g$~(|$|&e(|$|(X$~(|$|&e(|$|(j#g$~(|$|&e(|$|(X$~(|$|&e(|$|(rr#g$~(|$|&e(|$|(X$~(|$|&e(|$|(j#g$~(|$|&e(|$|(X$~(|$|&e(|$|$OJY#Gf%,(x%.E[%.&d%.2b#;h5o9Z#>P1e%.FQ,Ag$OFW#:Z.y%.I]%0$T2Y%V#Gr%$.peq_Ua~ckviRVaRbVRglVihUnUSSVSFvfUUlqThUUUXXVeWlU]R%$Mw%!:|<c%!6bR$O5[$NEmMRV>tR#:V$u#?5Z#4#wQXRSQU_(l$p[%n#s%u&k&j$^&Z*ZR$z$U(c#n(mQTT[RX*R$w#m$R&jRS,Z*S%SQTRkTQSXY#W%zTQT%s&e[%r$fo&h$qwjy%t*iQQ#S)q)XXTW_Q^]jQaRahQQ^#YR,R(m&r&oR#d%SR(X[&V#e)Q)Ti)s$Ro%U(_z$d*mS.ej$_*mS,f&Z(e+mb%^$y$lQT%r#Yb%_%|#|QXQQ&a$X%aSR]RbsreRSQh&W#R#~$_z&QQ%Y#vj%c$k#k%~$f#g$|#Y~%f$zbT#p$bx$a#i~T(Z#S#q#Raj$~(mRTQ[R",
    "TQ&i&c,a*l#XR$p%t%w&a_#k&R&Y%gSRT&oxd&ro#X#zk$ThUZ&yQ%w$ia%sxQ&TTQTe,RR%aU,Ag%!%u#6z$O&h#+i#)XR2h%,5a(;gRc#1u#0k7r6x)p%a#!o%SR##U(cURnURRUURRa*x6e,]URR1wsR^;VURRUQ=e#0v_#1T;PURRUQ#qURRUQ?s;xHgHlR#xURRUQ$XUQHsU#1V|R8iURRUQ:d?p$QWRRbURRUQ[SGVH_URRUQjQURRUQ$RURnURRUQaUQ|URRUQQUR3^3bUQyQURRUQ#VURRUQ)bURdQURRUQSUQ(RURRUQ&lURWURRUQfUQ#sURRUQ(bURRU)bURRUQ)WkURRUQ%UURRUQ$lQURRUQ9c;h;cRRRnTiTTTT*T#3u#1v3ZWR[QTR3eTXRXe_T#2T#2aRX#2T#2a3bR1z1s3q5_6pVR#w&RsR^#+W#+XTRRRz[T#*]#*uTTTT(UqR^#%j#%k,uSRYRRR,jRRRnTiTTTT#xsR^#(n#(o%c&r)y#TRRR&h%vTiTTTT#^)nTT*ZR^#h#b$l~$tXYXSRc*b%dY2q#B6[RYRRR_RYRRR#A7v#&d,ySR[.h.eRRR+yqR,u.bRYRRR9SR#&WKoSR[RRRRX+YTW#&gTTT#2w#3cQTRuTTT_]R[#1d#t#1i#,csRc#.u#.vTRRR#.k#,uTiTTTT#.QJ~SR[0Y0VRRR$^k#!QOmR^NoNtXRRROVNxNoRRRR#$ZsR^#$eHhURRJoFjYGR#)z.XURRLiQ#*|*c%x$lqR#!o#!zRRRR#!q#!TTiTTTT#!^#$hRRR&yURR#*X#A8RURR#B9Y^TiTTTT*RsRc#,j#,k2^%WSR[RRRR%XRcTTTRNmNfNe#0iR3lURRMZQ#0oR#WU1]QNaNfRRNaQ#.dRaTiTTTT1vURR5UT#0t#1b)rTiTTTT+~.[TiTTTT(U&jOn#!R]Or#&_TiTTTT#xYTiTTTT#STW(zYTiTTTT1j$tURR$u$",
    "STiTTTT#dTiTTTT&z1YTiTTTT%_TkTTTT2y[TiTTTT#!c#3ZTTTAr.aQURR.bR[RRRR3q+U#b&v$Y#a+w$Vx*|*f$e1lRR^#!Q#!RTRRROtOUTiTTTT(If(s<%6m8I?P$O4h$O.l<z#AcBZ$M9S$+c(y$O+_0p0o%!GZ,hd#8Bc_Tb~#nfn~oRajcR#XV#w#n#gRRR#Td]saj#P_U#o#VSRdfR#P#YsWl#Z#ob|^#@J]%+=|s#Mw%00f%.Lb%!)j$NBf#y=XV#<BX$y#U#Rt#c#t#aiQ#Qy#Tnz[#ZT#cX#rz^U#kkmR#e#p__TXZh|[vR#_xl#p#ocb#Z#i#tY]W#7F[.6T+Kj+Iw%,?X%,@X+Nk#70xW#5CP,Gb,Hx%!;c#:?qpUUQZa]QUQSj$y#YRuRhYRZwVR#^#jfRaR#[#i#pYofYhR]VoR[Rk%S#lUQzUvU$yQT$]i#c#TTU#Y#bRZT[RA9uQcmQTU#qUQZa]QUQS%pX#WXUuRbXUw%QUQfWWZTT[V$|R#e#tlRcR#aWQ^kQ_RS_u~TQbXQwRu#mU$rRSV$g_RYSRXQQZ#&(S(yR+Fm%!DvQo$NHu$O2y#6l#Ip#3y#Ab%%Mw$bTTZURR$oZTRRRRRRRroRRqZjRRRRRRRRRR$l$iTRRRRR#j#mRRRRRTQTRRRRTTTZRRRRRRRRRRR%VR%WRRRRRRRRRRRNMq$bTTZURR$oZTRRRRRRRroRRqZjRRRRRRRRRRNNmNNpTRRRRR#j#mRRRRRTQTRRRRTTTZRRRRRRRRRRR%VR%WRRRRRRO#XRRRR%%De#Xa$NAh$NLV#>bIyBd$NGd$N=k#AQ#:CkrmZUQTXTRRRVRUXuxmXSrU]SSVW#9$q$N<a$N=|$MGe#%a#%V#%aTQ#%z^b#%wR^$N*_$M%f#Nw$;v<t$M*uQ$|$*[SR##o$O$U#*S:^UQZa]QUQ)b#9W$&s$O$j$O$gV#OS$6Snoncnyndyn#TnensnUn|nqngnc",
    "n#Rn$Nx#)h$NKu.hQ$JMxq]mhRya#sqSYg^QpvW&YT%spQip#ZWf#^#va#c&W&rXk_&i%wwQnTW#Yoi#^#l^QhR$L,p#<uR$J>sV#QVSVS#XXVSVS#SVSVSiVSVSu#kVSVS#bVSVSVVSVSo#yTQTgTQ(jR%HQRRRRRRRRRRRRRRRRRRRRRRRRRRRRRRRRRRRRRRRRRRRRRRRRRRR#3m#O]$&t#>o%IU%IdX%Nf(_&xbUQZ(_&~]QUQ%NUZS%IU%IV%IU%Ib%IW%IP%Iw&V%xQ&P&yt&RQ%xQ%I~b%IeUQZqb]QUQ%$pB[T#OP%F]#G]#Nq%!MY%!M_%!M[%!Az#CgbCo$MHk$L=R$L;i$LOh0<e%,0U$X,t#B0eRRRRRRRRRRRRRRRRRRRRRRRRRRRRRRRRRRRRRRRRRRRRRRRRRRRRRRRRRRRRRRRRRRRRRRRRRRRRRRRRRRRRRRRRRRRRRRRRRRRRRRRRRRRRRRRRRRRRRRRRRRRRRRRRRRRRRRRRRRRRRRRRRRRRRRRRRRRRRRRRRRRRRRRRRRRRRRRRRRRRRRRRRRRRRRRRRRRRRRRRRRRRRRRRRRRRRRRRRRRRRRRRRRRRRRRRRRRRRRRRRRRRRRRRRRRRRRRRRRRRRRRRRRRRRRRRRRRRRRRRRRRRRRRRRRRRRRRRRRRRRRRRRRRRRRRRRRRRRRRRRRRRRRRRRRRRRRRRRRRRRRRRRRRRRRRRRRRRRRRRRRRRRRRRRRRRRRRRRRRRRRRRRRRRRRRRRRRRRRRRRRRRRRRRRRRRRRRRRRRRRRRRRRRRRRRRRRRRRRRRRRRRRRRRRRRRRRRRRRRRRRRRRRRRRRRRRRRRRRRRRRRRRRRRRRRRRRRRRRRRRRRRRRRRRRRRRRRRRRRRRRRRRRRRRRRRRRRRRRRRR%2%lRRRRRRRRRRRRRRRRRRRRRRRRRRRRRRRRRRRRRRRRRRRRRRRRRRRRRRRRRRRRRRRRRRRRRRRRRRRRRRRR",
    "RRRRRRRRRRRRRRRRRRRRRRRRRRRRRRRRRRRRRRRRRRRRRRRRRRRRRRRRRRRRRRRRRRRRRRRRRRRRRRRRRRRRRRRRRRRRRRRRRRRRRRRRRRRRRRRRRRRRRRRRRRRRRRRRRRRRRRRRRRRRRRRRRRRRRRRRRRRRRRRRRRRRRRRRRRRRRRRRRRRRRRRRRRRRRRRRRRRRRRRRRRRRRRRRRRRRRRRRRRRRRRRRRRRRRRRRRRRRRRRRRRRRRRRRRRRRRRRRRRRRRRRRRRRRRRRRRRRRRRRRRRRRRVRRRRRRRRRRRRRRRRRRRRRRRRRRRRRRRRRRRRRRRRRRRRRRRRRRRRRRRRRRRRRRRRRRRRRRRRRRRRRRRRRRRRRRRRRRRRRRRRRRRRRRRRR#2<P#|$U$n&^$dR$P#Z#qqj^cn#PWva^z#jX#V#Ut~Z#T$|$d$W#d%Q#Zcy#c$fTQ#rka#u#Y#rTQ#t%c%fR$Z#wWTZ%b#hRbUTQ%SR#P^#T#g#b$hR#jUTQ_|R#f%u#f#b#VhcTQ$b^c#g]#^R&^RZTR#SRs|j$V$Z#nR$SR#iRHotW]oZzgoXVYU]VxuVd_[_ud^]|#[^Qm~#b#a#]R$L%z:t*k(b$O<v$O8c#>t#.V)hjcjujkj^jyj[jkjajwjUj#Pj$N6g#NQ%!0b$NAv#>i(f%!?u,~R%!6Q$Bo%%a%!Dn$MNp$N#f#rR$MIoTQT$M2u$M9QX#+]$NB~SRT#AQ,U,k$!S#@j%!.R%!=c#@w%,=e,8R9Y++q#Q#|*3yS*3]*5uGpw]#Q++^#E1^#E5V#w*4x*3r#]#XW#gY#p$P+,UX+.gTt#?:n_#?(m##IP##Hv##IbF5R#P#ckm~F6jF7_RRVRbQulF5YUF4oZVF6]F7d#SWoF5kF5h_RF5UF5_TF5UUF5n#WF4rUF4i#PQ08cY##Il##IeQ##HyT##IU#?(tR=1uJFqK9XUQZa]QUQSfTRRRWZR#$Mf#^);d)<r*8t*5P$e*",
    "7k$mQ*5~%uQ*2v*6c%u*4t*6y$PR)9P):f):olR)9oa]#?7sR#?;l$p++n#Cz);m);t#CcVQXQW]++kh+*q$JHT#w#t#^sa#swy~kQ#eS#bXRRRRRRhU^ra^Ry#eQQ#X#iU#ZS#2AYQUZUQSfRRTQ#E4a%n#Q#|*3yU*3jQ$O+~QQ$O+yV]%Rv);x)<_#ch);d)<T*5[(+qQ()vQ#ZVRTR*3f*4Z#bxuRvR*3j*2r*2oY*4R#Pv#T_*2sY*2zI[RRIbRp^*3Z*3Q*3Z*4V[R*3l*1|#WR]*3b)8q)8~*4VW*3l*3oKQ)8j*3U*7R$X+*w#UG|*5fU$e+,o#BUT#Bv++W$e+0SV#7.u_[_#8OQ#Cs+,lS++j++q$U$T#?:R_[_#8(~b[*5]#|):m)<X*5^#9>hRTRS#:8b)=U#^)<QTRf)<pV+.b+0P+.b#U++o*5q*5dQT#b++b#BUT)<t+0U+0t#[+,m++iYS++nIg*3v);]gIVIv+0_$T#?:_#?:U#?:X#8N]#R#Cw+0Z*8V*7l$]*3oR*6q#^~+,[G|Ku):f#Q)9d)9Q*2~$0q.9kz+Jw%$)Y%#BV7P%!(r@lC_Q$N1T$!SF|$OAR?Q%!)n*uT%YVS)Z4r$OJu%,*j%,0[)ord$LKp%_(^$Yi$j$[$X&o0._01c#UuT$^0.x01g#r0.d0.y0.~00XT00a01gq$d$oTTX#Q#oura]S[m]#QXTW]$^qni#c02kf00v#X#^#P#U#rf&lRR#5.oUQZa]QUQ#UcUdedZcR]cbcYTdedy#5,qRRYQTR$a%_(^$Yi$j$[$X&o0._01c#UuT$^0.x01g#r0.d0.y0.~00XT00a01gq$d$oTTX#Q#oura]S[m]#QXTW]$^qni#c02kf00v#X#^#P#U#rf&RZWRXUR$L.[%+:S%0(m$N:S%2e%!Cu%!9jR$FBjUQZa]QUQUUQZa]QUQ,+W)i#|%,:P%.Nb#3V8R#G^#>u$r#8t%!#u2hQ$0",
    "WQ$LOQQ9^<x$N%u$l$NG^#Ce%$,U%##o#_0_%,?^,0x%#9r#5$p_pn#R&X#xR#mQSR&k%e_R#]$WpdZf$P%h&X&u%e]R#Z$WpdZf#h&X$STRS#YQ%n_pn#R&X#vVSR#YQu#Z$P^%Td%[WV$i$VV&S_pn#R&X#zRSoR$W%e%Tpn#R&X#~$y%e]#ZR$WpdXRdRhR$q%e]#Z#o%TdXf$VVzTQUR#,wRRRRRRRRRRheRRRRRRRMT1n#,o#,r#,oTL|LxRRRRR#,b#,^RRRRRRRRRRRRRRLQK|RRTRSVRRRRRRTTRSSZRRR#*p#*mR#*nRR#*oRRRRRRRRRVS#*]#*YTRRRR#*P#)zRRRRRRRRRRRRRRRRRRRRRRIRH~#(z1wH~RRRRRR#(n#(k#(n#(k#(n#(kRRHiHfTQTRRH^HZR#(XRRRRRRRRRRRRRRRRRRRRRRRRRRR#)bRRRRRRRRTQTRR#(v#(s#(v#(sRRRRRRXRRYRRXR#(X#(U#(X#(U#(XRRRRRRR#(eRRRRRRFeFbRRRRRRRRRFQ3r#&pRRRR$h$eRRRRElEiElEiR#&Y#&VRRRR#&Q#%|R#%~R#%|RRR#%xR#%wR#%xR#%wRRR#%t#%qRRRRRRRRRRR#%]#%Y#%]RR#%^R#%_RRR#%cRRRRRRR#%V#%SRRRR#$|#$vR#$w#$tRRRRRRRVQQVRRBoBlR#$W#$TVSRTTQTB[BXRRRRRRRRRRVS##]##YTRRZ#!w##QRRRTV#!q#!tRTRRRRRRRTQ#!a#!ZRR#!Y#!VRRRRRRRRRRRRRRR?r?oRRRRRRRRVQQVRRRTRRUXRRRRRRR>g>d>g>dRRRM~MyRRRRRRRR=z=uQT=v=s=v=sRM_M[RRRR=j=gRRRRRRR=Z=WRRRRRRR<y<vRR<u<rLYLVRRLU4d<lRRRRRRRRRRRRTQTR:s:pRRRRRRRRRRRRRRRRRRRRRRRRRRRR$b$^RRRRRRRRRRRR9~9yRRRRRRRRRRRRRRR",
    "RRRRRRRRRRRRRRRRRRRRRGpGkVRURVGdRRRRRRRRRRRRRRRRRRRRRRRRRRRRRRRRRRRRRRRRRRRRRRRRRRRRRRRRRRRRRRRRRRRJfRRRRRRRRRRR~IRH~T6^6_UwRI~Iy7_7[RIxIuRRRRRRRRRRIdR7o6pRIdIa]RTQTRRRRRRTQTRRRRRR5h5eHYHVRRRRRRR]SRGnRGwRRXXURR4o4jR4k4hRTQTTQTRVSRTRRRRR3tR3sRRR3p7n7k7nF_FcRRRRFhRRFgFdRRRFaRF_FcF_RRR(a+v+w(ZbRaRRRRTQXRRRRRRRRRRRRRRRRR1z1wfcRRRRRRRR1h1cXURRTRRRRTxCPCyxsRRCtCq0s0pRRRRRChCeRCfCcRRRRVRRRRRRRRRRRRRRBgBdRRRBaB]RB^RRB_RRRRRRRRRRRRRRRRRRRRRTQTRRRAVRAURRATAQRRRRRRRRRRRRRRRVSRTRRRRRRRRRR?r?oRRRR*S*PRTRSVRRR?VR?URRRTRR)b)gXRR]Y]R[RRRXRR(o(lRRRRRRRRRRRR=l=iRRRRRRR=]=YRRRRRR=P<zRRRRRRRRRR<iR<hRRRRRRRRRRRRRRRTRSVRRRRTQ;f;aRRRRRRRRRR:|:xR:y:vR#?Kr%!)c&_$NKj$NFV%##x.WQ#4V$NAW%,9S%,&X$N4y$N5uLoDi#F^$O7q#94lRRVVTRRRRRRRRRRRRRRRRRRR#X#[RRRRRRRRRRRRRRRRRRR$S$VRRRTRXV.KVRRRRRRRRRRRRRRRRRRRRRRRRRRRRRRRRRRRRRRRRRRRRRRRRRRRRRRRRRRRRRRRRRRRRRRRRRRRRRRRRRRRRRRRRRRRRRRRRRR#M#o+zT#PT#k$k(g$gT%d)m&V##Izqm##MW##Ox##N_)n$x$s##Ef%S##CU2Pu##MX#o$R#T##Om##Ls##L]##O]]##Bb0r+x,]c1t#]n&Y*v+Z+W)X#q&h[&U*v(U(R)b$k&c.j&iS&v&y",
    ")i#k)j%eT,v##Nw##Oo,g,~,y,h+~,zR##MVr##Hx##IX##IiX##Hy##H_T(Tv(|#y#pS$X+w0aTXTTTTe)Uu*q+S&^##Na#bX##MSz,^)Y#^T&c1V(v$g*y##?~#^i##AW]*Z&bT%l&mR)r(Q1g([(r#$![$cTT##Ll)RT##Hi##OU)d##Ha##Nj#Z#$!USS##Nt,iTW(f(bn1b0P.v+e$i##Kn##BT0X##M~##LV#R)P%[##Bk##Kw*|#~%[##Ev##FX$Yr##Gdq##FT)ErK#W##Mk*gT#PT#k$k(g$gT%d(X$p##Izqm##Ig##LY##Lx(Y$x$s##Ef%S##CU0j#c##Ih#o$R#T##K|##IT##Hl##Kl]##Bb.^*e*vc0a#]n&Y)c)t)q&r#q&h[&U)c%o%l&z$k$|,U&iS&v&y$wm(U%eT+c##Md##NZ+R)^)Z+S*i)[R##Ifr##Hx##IX##IiX##Hy##H_T#d#b&h#y#pS$X(X*oTXTTTTe)Uu*q+Sm)BmK+R#bK)kK)t##Ic#]*w)Y#^T%q)o.p(v$g*y##?~#^i##AW]*Z)AP)<lT%l%XR(^(Q0R%u$S##Lk$cTT##KW&lT)>sSVK,q##Mo&~##HaK,d)Co~##LeSS##Ma+TTW(f#p)CX)Dr.z)9l)CW,c+e#T##JY##BT*h##J^##Jp#R&j%[##Bk##Jd)h#~%[##Ev##FX$Yr$a*@v%#%a$M*lR%>q%!6R2f$NJo$O8g,j$LHe#3?UW#57~.NPRRRR(s%.K|#Ho$O1c%t%!&w#!|%#Ie]+NV$[P%.#j%!A_5~aVVVaVVXkjkb[V$O;ru$NJq#79c]VQZdRRRWWTWjoa]R|RSQXR#i#VXcRSQXRbdSiRpTz]VQZdRRRWWTWjoa]R|RSQXR#i#VXcRSQXRbdSiRpT#<3nR:Y$X%*3w#]##+z##+WfUQZa]QUQSQ##+T##+y##,QT##1qRfX&h##*k##.|%w%tw&T&oXfhY&",
    "_#j$oZ#T%o%]&n&k%S#m%V%Q(_RzR&d&sR%U#tRR[%e%pof]gg&fR%dR$T#v$T$Q_S$^fX#qwR[R#R(S(P(S%R#x%|%~%|$[$ZW#c#x%l$r$s##1nQQSR##*](Z$t##,|Xe##+w%d%oQwfXV##,c##,vriSaRhsRxaXc~y~hR#fR$<bU(y(tQ)~,:z$s$OO~Hi$N;]URR#0oRRRRR$O>y%!FQ,7x%+=k$N:w.$u%+=k$N:w.$q%+=k$N:w.$e%+=k$N:w.%R%+=k$N:w.$c%+=k$N:w.$q%+=k$N:w.$u%+=k$N:w.$q%+=k$N:w.$s%+=kQ+1|SR$E@rV$E@gR$E@jQL~#+mUQZa]QUQ$MBy$MBhiUQZa]QUQbvUQZa]QUQ$MBg$MBT#&l$O;V$N?p$O2Q^%!+x%#(u$MAy#:?]UQZa]QUQSiTQW%PR#iRuRhYRZ#TbR#c#~Rr^R#[]eYofYi#SR]ZSRqR[uR#oWRdxSQWRR]Ym_SWR]YR#>6t%#8g%.@e,*_+]#%f%!=[#,Q7^%,?o%0%[Ki.ewSR#%l%#>Z.bT,_$7n$1Y$U&f$c#~&f$OHW#i#6L]$qR]T#SRuRhYRZ#P]R#a#vRnRaR#YUYofYg#QRZ_SSRoR[RsR#iUzVQQibTU[R_[RRR#G<k%,8w#&dRRRRRRRRRRRRRRRRRRRRRRRRRRRRRRRRRRRRRRRRRRRRRRRRRRRRRRRRRRRRRRRRRRRRRRRRRRRRRRRRRRRRRRRRRRRRRRRRRRR$O8p%#)Z%,6]+Bi)j+Y##]#:q$=P$OI]$N>|V$dJzGx0M~,8]UQZa]QUQb#;QEY$&o$Od$NV#_%LZ%3t*q#Jh+vR$Hx_%Lb#!VQTNU#(|+~$Lb&6i&5k$=v5p+UR#&aMQ$.i$+_$+[%*_%*Y$.b#Lq#Lf$0z$0w$Ok#7;w#4H_+pQVQ&dQ$Em$t$[bX#s#pV_#iRRRRcUQ#:]R#9o$M&r;b%!&x#GW#HQ%j$1v$MKvT$N+",
    "ZR$O.bTQT$N%w%8w%$1k%$0m%m#Nr$#p#|%#+x$O,l$O,SW)x)^q%#.QR$>S)V$N=k%#.iq%#.z$O)sfma$&^$&ha$&W%#1fW%#0x#C[$O$x;h#T&T$NC_#gq$N=s$N=]$N=g$N;vR$N;eWr$N>c#Y$o?w$$[$Ip$F_%#3b%#6R0x#Ld$N:_#y#q$NFy$NDv#5[4u#?Z#0t%Y#t5JRRWQVQXXZQSXUS_wv#R#gdWQSXUS_#p#o#rVS$R&^X$wRZ]$dX_%lfW$d$w#Q$ZT$SXnVRa]iR#df$V#xmt$l]$sXnW[^XnW[%SQQQ#_Q#QTQ&Sf&XQ&WZb$fd$oXntRWQ^RgbRmR#m#e%~$tS#[%t%y#t#Q%z$dQ#p$~VVk%P&h$^T#kV#r#qQV&c%uU%oUR4<d#u#0~#8m1UR#G[%!8Y$N>rRS$O0]Cv$&n$N*v#1EfRRRRRRRRRRRRRRRRRRRRRRRRRRRRRRRRRRRRRRRRRRRRRRRRRRRRRRRRRRRRRRRRRRRRRRRRRRRRRRR##jRRRRRRRRRRRRRRRRRRRRRRRRRRRRRRRRR#%QRRRRRRRRR#%R#$~RRRRRRRRRRRRRRRRRRRRRRRRRRRRRRRRRRRRRRRRRRRRRRRRRRRRRRRRRRRRRRRRRRRRRRRRRRRRRRRRRRRRRRRRRRRRRRRRRRRRRRRRRRRRRRRRRRRRRRRRRRRRRRRRRRRRRRRRRRRRRRRRRRRRRRRRRRRRRRRRRRRKfKcRRRRRRRRRRRRRRRRRRRRRRRRRRRRRRRRRRRRRRRRRRRRRRRRRRRRRRRRRRRRRRRRRRRRRRRRRRRRRRRRRRRRRRRRRRRRRRRRRRRRRRRRRRRRRRRRRRRRRRRRRRRRRRRRRRRRRRRRRDqDnRRRRRRRRRRRRRRRRRRDQSRSCuRRRRRRRRRRRRRRRRRRRRRRRRRRRRRRRRRRRRRRRRRRRRRRRRRRRRRRRRRRRRRRRRRRRRRRRRRRRRRRRRRRRRRRRR",
    "RRRRRRRRRRRRRRRRRRRRRRRRRRRRRRRRRRRRRRRRRRRRRRRRRRRRRRRRRRRRRRRRRRRRRRRRRRRRRRRRRRRRRRRRRRRRRRRRRRRRRRRRRRRRRRRRRRRRRRRRRRRRRRRRRRRRRRRRRRRRRRRRRRRRRRRRRRRRRRRRRRRRRRR8W8TRRRRRRRRRRRRRRRRRRRRRRRRRRRRRRRRRRRRRRRRRRRRRRRRRRRRRRRRRRRRRRRRRRRRRRRRRRRRRRRRRRRRRRRRRRRRRRRRRRRRRRRRRRRRRRRRRRRRRRRRRRRRRRRRRRRRRRRRRRRRRRRRRRRRRRRRRRRRRRRRRRRRRRRRRRRRRRRRRRRRRRRRRRRRRRRRRRRRRRRRRRRRRRRRRRRRRRRRRRRRRRRRRRRRRRRRRRRRRRRRRRRRRRRRRRRRRRRRRRRRRRRRRRRRRRRRRRR)R(~RRRRRRRRRRRRRRRRRRRRRRRRRRRRRRRRRRRRRRRRRRRRRRRRRRRRRRRRRRRRRRRRRRRRRRRRRRRRRRRRRRRRRRRRRRRRR#D7gkRTW#S.cDP#84aRRRRTTQTR#^Q#XRRRR#U#RRRTonTRRRRRRRRRRRRRRR#8?k$OMX&~#Y$OHn;[$7~IQ#3xUXVQY$OGfEpIP#:GSpmTQTVVRRRVTRSU]RkUXUr#<7[wT%$*VQQV#>SRRRR$O?k%!(P#4p#4|TQ]R%!;v$(gUTQ$AiwT+CS)ip,6_,0eq)URx%,Di%,EaP,HrNu$NKi*Y%,JRp|)v,9q(j(|QTR)c,7z0LV,l0x1P)oR,c%_7r6zc$.Wk$0[$!yY$7nR<pSSVSS08|(PP,)u2y,9x(3waTQZlUQZa]QUQa#SUQ]QSQYfaQgSR^X1SVO2QVTQSXYO1|QSX*:z*;V]2cQQ1gV*;kVTQjVTQGDQVTQSXYGDVXYoXY*;hQ+PVTQSX*2V*2a]+cX*9y*:U]([VZVTQO&jTQSXYO&iX*4Z*4e]eQSX*4j*4s]O(W",
    "TQSXYO#]VTQSXY]$tQQ$W%tVTQjVTQSXY*3[*2|*3UQQ*3~&yVTQSX*8X*8c]&tR[%!IcQdQQQQqpQQ^QtQgQQ%!HwVTQS*6tVTQSXY*CjVTQjVTQSXY]%#&ZQQcVTQSXY%#&qXR[0wVTQSX*3y*4U]&cVTQSXR[_VTQS]VTQSXY_VTQS*9sVTQSXY*BeVTQSX*>t*?P]dVTQSX*>T*>^]5jQQ#v,_VTQSX*8v*9R]RVTQSX*8h*8q]+ZVTQ#nV&kVTQSXY&nQSX*1u*2Q]#[X*0b*0k]$lQQ4fVTQjVTQSXY_VTQS#TXR[_VTQS*>~VTQSXY*@kVTQSX*=c*=l]2u2rVT4kXaj4~XVTQSX*<r*<|]kX*=S#aVTQSXY*>o]#RVTQSXY]%cVTQ+PVTQSX*2f*2o]+cX*:Z*1XVTQSXY]O#STQSXYO.i],aVTQSXR[.SVTQSXY]&VVTQSXR[%bVTQSXR[_VTQS*<rVTQSXY*8cVTQSXR[sVTQXVTQSXY]kX*5m*5v]*7^VTQSXY*,uY_WVSX^RU$W(4k,)U&Yi%!6]i+[$OEc,7z+Kx%#%o%+&TUQZa]QUQS%*ApK]k_j$[fLhvw#8X#4y#1SI|#s#VYI_:Q9g#PHPxOvOWRG_9j#1~THm%Y6U5sKY#xTQ#XIf&jKk%!JU%!,z#@jy#Gj$MI[U@d$NGm$NOz$NE^?V,~4[#0Z%!Cz.6h%.Cu#<m$N=Z.FZ%,5r%!;dg%#%W1Q%,@V%,2m5_$N%i$N(d5~MR^#EzQ#>h%!3P$N?Wb%!,|%!;S+m$NHa$NK[*s$LET%Hm#Hl%!.U#z4u%#6_E_$NMoz$NEX,j$NBd%!6|%#&p#.e5c#$T6[#$Z#zEp#6h2_#9b%!)Z*w$OC]d$L<yKU0Ir%.Lz%!)r$]T#,t%&lU%!1e#.w$OAe#No=x%#<^%#ES2V%#!RSR##_%#Lx%!.cZ,ww$N:u#0Q%!2r%.!r+Mj#Hb6_$NGob$N*i.OY#@=dRV",
    ".VW*h#nmzaUQZa]QUQSi#W#]l$_#jszRRRRRRRRRRRRRRRRRRRRRRRRR_RRRRRRRRRRRRRRRRRRRRRRRRRR%v$b#o%T#m*mQ.aT],|,P#_$p#i%x$d#m%Xi%oS)dQ#7Kb#EWFr%0mRRT%$Cc#B]%!4i%|Q$NHl$O!W%!9e%#>t#SU&Ic$SR#WVWV#VRSzfXURV#_#SWujgRRRR]V^R_shRm#cYd#hd%mU#zR#WVWV#V#q#n#k#nzfXfkRV#_#SWuj#Y#pRRRR]V^R_sh#S#Pm#cYd#hd%1^U#zR#WVWV#V#q#n#k#nzfXfkRV#_#SWuj#Y#pRRRR]V^R_sh#S#Pm#cYd#hd%,k*Gq$SR#WVWV#VRSzfXURV#_#SWujgRRRR]V^R_shRm#cYd#hd%7]&0Y$L0t%!5p%#G_#7hAd$N#s#w#t$VusaV#mwy~kQ#eS#b#k#b#i#fRRRbRaRhUt#TrRUhs^Ry#eQQ#X#iU#ZS#|#w#t$VusaV#mwy~kQ#eS#b#k#b#i#fRRRbRaRhUt#TrRUhs^Ry#eQQ#X#iU#ZS$NBv$O3a$M>e#K^#Jk#CY#7~#:l#=r#>h#>,dXUT]lyZtQsbWRRRlcbcglRRi_]#<<^#8%z%tRfX#URwRhYRZ#TbR#i$^RzRaR#^RY[ofYg#SRZbSRwR[R#RR$P#yR%v%|%~%|$[#i%l$r$sQ$t#iq%d$rfXYaRheR#gR#fR#8#^%,)c0BV]2T2QS]eS#a$1Q(w$)]T$)y$(^$.snX$,kXTW$.c$1T0Du0Bx$&y$(Q#59cl^UpwTn^V^SbiQt^gz^f^^j#Yu#Q^sV[rmbRlXgZX#Vt_kR]ofRankR#@1k#@3bQ#@.y$V$W$w*?SX(|(v(|[(v(|$VTR+aX(|(v(|[(v(|*Ej*GuS*Hm#g~wR*?mXS+T+YXS*@[*Hb*Gn*@]X(Y(T(Y[(T(Y$ZR*lX(Y(T(Y[(T(Y*FW*Hd*Gz#l#y*@zXTW*@Y*GkT*jXTW*An*I",
    "US*H[RRRj*BdX$~$w$~[$w$~%qR)wX$~$w$~[$w$~*Fm*Jb*Il*AcXS+T+YXS*B^*Jd*Kd$Z[b^*Hx*DqU%xRil*AwXTW*An*H]T*Ip*IoS*Hu#d#S&l]Sc*Ew#fRSt$S$R*JY#@2yZQdZ#3Ea]RRRRRRgjRRRRRRRRRRR#P#SRRRRRR#]#aRRRR#fR$O!g#W*CQ#8;Z#@.aXTT)OzRL5oL5lTQ*!_#W#@,W#@4P(|U#@,U#3Gs$O)q#@3r^R~^#88_$u*DcR*D]RpRS*IR(kYh#@,W#@4T$f*=YX(|(v(|)U(|S$Z$|%UTR+gX(|(v(|)U(|S*C_*Bl%SSV*Cl&q$z~w#y#v*=sXS&f&kXS*>W*Bn*BW*>dX(Y(T(Y(b(YS#]%oTR*rX(Y(T(Y(b(YS*C~*Bp%mR*Edo%R%a*?SXTW*>a*EuX*Ho*HfQ&W&d*pXTW*?j*Br&X*Fc#q#nRRj*@jX$~$w$~%V$~S#n(iTR*PX$~$w$~%V$~S*CZ*Ak(gR*Gt*?iXS$h$mXS*>|*Ag*Ed%o[b^*GSQ*Eh#YU$e#U#Ril*@PXTW*?t*FhX*Gz*GqQ&q&~)|XTW*?n*Ai&r*F|a$mS**lXUTQ#9+c#r#@.^#@.h[#@2t#@3li[#@.SRS*Fr$G+ddRRRRRRRRRsvRRRR|RRzRRRR#RRRR#3Dqi#@3^#@4U#<Mr7Z$u#2dJpj$kJoJlJk$NEV1&c%,>W%,>V,!|%!<Z#7k#@|%)3xSUQZa]QUQS&gRfX#URwRhYRZ#TbR#i$^RzRaR#^RY[ofYg#SRZbSRwR[R#RR$P#x%|%~%|$[%e#x#i(V$r$s(uS$|$zQVT$^%dfX$TfX^XSaRheR#gR#fR#F(UUQZa]QUQS$|R_VVRjRWfReupRr#pR#aRqRVfoff#X#[RTR#PRdR#XRbQ$RURRk_VWYR_[R#F*hYUUQZa]QUQSnS(RRfX#URwRhYRZ#T%o%]R%S#h$^RzRaR%U#tRY[ofYg#SRZ$",
    "R#nSuR[R#RR$P[$R&WR$p~W%d(^YV$efXYaRheR,2_%0|%!D]#=DeQW%_#kRcSpQz#]#c#pX#XTnkRR#sVugTg_[RXURR_X#RtVmz|$R[R_QTuR]QtcZ(_UrV#QVSVS#XXVSVS#SVSVSj#TVSVSu#kVSVS#bVS|VSVX[VTQvSVVSVSo#y$g$VTQ$Y$pQ$Um)])Y)_QX#=6V:s$O%~&o$OBW#$Y#Fs#4]:o#H^#4V#h%)$~Yuxu$[%YQT[uxu$[%Qv%jO+rO,R$xQO)RO)aTVZ^O)XO)UZa#p$p$Qqt#_o&X%xO+rO*pO*uQO+|&XR%dV%Y%Z$P$WO+rO(h%n#iQO*eQO*tRhcZWTO*gO*hTXc#ZO+pO*pO*mVeXO*jO*mV^ZUQO+W$VQZ[VgXUjaRUXZe#jO+vO(_s%ZxitoO+vXO,]O,eO+wkO+_O*bO*[RO%~O&RO&[k+<s3b+EuQ#0K]R#0KS$fSVS$o$bURgvm#0HW#0I|#R%yTQUR$k#V#Yk#y#0Ho#0Hl^#0Hs#0HhU#0Hu#0HvT#0Ho#0Hl$a#0JU#0JRR#UV#0Hq#0HrTU#q#0IPQ#0Jx$_#0HyR#0Ko#0JwQ#0Hp#0Hk#0HlQ#0Hm#0Jj#0JqW#0J~_#eV#v#0Ja#0IQ#Z#0Jc#0HxRYf#jU#k#0Hw#0Hx#0Hw#0J_#0JW#0Hh#j#YRf#0HqQ#0JT#0KTQV^#0Hr#0HqX#0HrQ#0H|#0H~#0Ib#0IS%X#0KV#0GU#0Gd#0Ik#0Hy#0Iw#0JwR#fR#0GS$Uu#0J^Q#0Hz#0Hu#0Hr#0HuRV#0Fvc#0Hw#0HxU#0IP#0HpQW)g%S$SR|$t#0JcR#0JbTQ$oQ#SSRa#0KvTQ#0JZ#0Ja#0Jb$e~#mZQ#0Je#0Jh#0Jc#0J_S#0J[RTQVR#0Lr#SQV#0Js#0Jp#mR#r#0Js#0Kq$h$c#[RR#0Jk#0JfQ#0Jg#0LRRZQTm~$R#~|XQ#QR#u$[#m#z#0KtRR#0JlQURRy#^#0",
    "Jg#0JbQZ#0J[#0J]QQ+F|R$vR%VSjQnw~#]#|xiR$U#XTn$XSR$qRR$_QQoV#q$^g$dW$U$ZRTW$o_[$X$U$]$SU$X$UR$RV#v$nWRTQ$a$tY%l$b#jVmz|#qWRZQTmRXQ$]YTQ#f^$VSR#v$RQQ5W[UQZa]QvT#R#Q#R#7,fUQZa]QUQS$YRZXRSdgSjcpT[RRZR#VfRTRkR#U[Te~QTRRReVSVS#>(RfUUlqThUUUXXVeWlUbSR%%Aj*P7m#;)ZpmTQTVVRRRVTQU]RkUXU#QQXSR#:OT#M^%!:e$O1h8t#Eg#EtZ1^GZ>oTRS$OJr#V)jR%R%|QQ*j$_#(fQ#.P#.U#!zac$NBb$NEPQ$OBoX%pT$O@z$O@S$O?W$OAh$O@dg$O?X#T$O@de%c%!@x#6y$N(|$MGr$NKTS$OArX8r$O,tQ%m#R(z)V$O)ha]a$O0xv#)g##o#nS#|$O?vX$O?w$O:k3We$O,xQ$O?Ty$O;^$O)na]a$O,x(a(v]&Z$O<^R$O;k$O>uX$OBx&l$O7_$OAu$OB^$O9o,6WZ]#]hRRnaRRUbub_caYRldmYzqYQX#Q#k#=MoSRod#=Lgs#=Mo#[#=Nu#=Mo#=M_#=Mo#=MhTX#=Mo#=Mjw#=Mo#=Mj#=Mo#=MhX#=Mov#=Ne#=Mo#=Mj#=Mo#=Mj#=Mo#=Mf#=Mof#=M~#=Mo#=Ml#=Mo#=M~#=Mo#=M]#=Mo#_RUR#=LY#=Mo#=Ng#=Mo#=MP#=Mo#=Ne#=Mo#Q#zRXURRTR#=Lw#=Mo#]#=Lg#=Mo#W#=MlTQ#=Ka#=Mb#P~aeRSVZR#=Mw#=Mp[RpiXc[tRk$xR$gb[V$R%,4[Ik$MNd$3sLU$;JqRRRWnRRRR)fdRcRRRRRRRlRRRRRRqRRRRRRhRRRRRRRsRR*~RRRndRcRRRRRRRVrRRRRRyRRRRRRRnRRRqRRRRRR)rRRRRRRjRRkRRRRRRbRRRRRiRRR%eR*dRRRRRRRRjRRRRRRsRRR",
    "RRRRhRRRRmRR(tRR.PRRRnRRRqRRRRRRhRRRRRoRRRRR+|RRRRRRRpRRRRuRRRRRnRRRRRRwRRRRRRRlRRRlRRRRRRRRyRRRRRRpRRRRRRyRRRR&kRRRR0mRRRR]RRRaRRRRZRRRRRR$yRRRRRZRRRRRcRRR75P$O@R0Nvb$Q$T#~#QR#rnrZQl$^$l#ZqUX#^#Raz[Su#kg#c#n#m$SjjQd#n#Uhkc#Wl$engt#P$RQy#_#ozR[T$c$ha#rYlm$CCb:c%,>n.<|$NJP>gRHcDnFQ$M<]S&Y$9=j2]$9,Td[d[#P_Y_W#_X]W]W#ed[d[$[_]W]W$XVSVSx#xVSVS#j#ud[d[vVSVS$g]W#P]W%uR%j#Y#b%c$9<aQT$9<xXS#vW]_Y_W#b%mYTQTmXS$Y]W]W%W$Bd$NOy%c0cR%!@k$OHW+T#Gc%0)Y+EP%$m*e%,[OTHe%!HhgRRRRR%#@VRRR$)_1#d(yR%.#lCu#s(R#c$NJs$NBZd$N>s$NGS$OCa.R0X$ODWad%!4m,#|(|Q%.Cs#,e6w*s$N&T%0a$b%Ht1Cu+Ir%Iq$LX%##U#>Q#FP#AR$N?_#0m$%g)R$O<|$M=^]YW_RkpaYQdR^TU7eY$P$qTRSSh[RRVSR$d#~$v$o#q#l#o#~$C)hQUTQ$C%tC_X2cf^XeQfYfu]fgf[VtR#]dbbUQZa]QUQy1ye*cf^XeQfYfu]fgf[VedbXUTQyS*R]QUT]QQCY%ER&m%!%p#;6|pmTQTVVRRRVTRSU]RkUXUvZRUXYTUS#;:nV$N&v$N5U$N4w$*h,0|P%0.X%$2o$N4~[QTotTQ$ovdu#[#b#[#nvdw#[#nvdvRWR#rvdu#[$Qvd#cUQZa]QUQ$Svdu#[#pvdu#[#f#[#V#[#nvdw#[#nvd#eX$MOW$)]$MO~%,=WVSR,*X,hS%!FzXURR#:DbRTQTVVRRRTRSVReUXU~U]RUSVW$mpmTQTVVRRRVTRSU]RkUXU~U]RUS",
    "VW#:+k4v$+Z[#Ez#EyhSXUXS$#t$%c#5*~RR#6*v#FY;x$.rSXgXQ#,k%#&f#Z#c#n%#$w.2V1>a%1T%3YR%@Y#>f.=^+ERrQQ%!9S&|$N;h$N@j&g.~$L1d$L1c)|4g#=c$*3vSR#YUQZa]QUQSo$ud#YRwRjR[Ru]R#e$QQTrTeTQ#aWYYgeRpSe#S#]#aZRZQQoR[Ry#sW#gRa#^#RUXYVZv#T[pk%P$_$[SV%euRWRR[RRR$(<p#<b$O7c$N+k##n%!*s(]$O,^#91fZRSU$mR]T#WRyRl^RR]#T]R#e#zRnRaR#^UYsj^g#URZkvSRoRaRsR#mU~ro$uQ$pQ$i$V]TUWRZWRn#:9b$MNV&h_#P#z%y#l#i(]*c#n$P$s#e#p~$i%|)Sb[%[#c#k%j%j(s%pX$s(g[$o#p#b%oo(k)Q#w$n)g$jn#d$s$_$dq%h,[Y*Z%k&e*S*~+z+Qy,[+S%c%U%xW#o#P&V&w(Sx#d#X#ax(p&R#W*dR)V$c#W$_(z#^#X(m(r)f+Ys)l#u*~#Y&p$U#W&s$p#h)dWT*vS&]&i*q(]$S(m#h&x%]$m&R#Z#o(rq&]&R)c$h(r$Z#f(ir#V(Pd%U%m&|)l$e#n&g#W^(c#oZ(r#v#k#x|)loc#e&i(c(j$drk&s*s%p$[r(o%Z#u#n&[#U#W$X#h#T$d#l$v%R#[%v+Rg*V(e#~#q%i&g#t)T*Z*k,j$Z$V$]rWu$q[%U$f&^%iu(vf#]*Y#Y,BS#UUQZa]QUQSs%pRfX#URwRhYRZ#VR%o%]R#i$^RzRaR#^R$P$Y[$f%VfYiR#SRZR_SRwR[R#RR$P#x%|%~%|$[$S$r$s(Y$e$kW(^#p%d$rfX[RaRfReR#gR#fR.#cS&Y$9)r2gQQ$96~d[d[#P_Y_W#_X]W]W#ed[d[$[_]W]W$XVS$9%gRRRRTRmRRRTR$9%]Sx#xVSVS#j#ud[d[vVSVS$g]W#P]4iVSVS4t%uR0mf$9*e$9*p4",
    "b4qVSVSiRR3U#b%c$98uQT$99aXS#vW]_Y_W#b%sTQT[YTQTmXS$Y]W]W%QV&a&]&eQF3yUQZa]QUQS#kcbcixit#XRtYU^XvTqRXiRVjTUSg#cRURSWTRSSJAV%!=^%!!j%!*h)[#;#eUTQ_%_#sRuRhYRZqR#c#X^R#i^UYYYhRZZSRoR[R#WQ^di_#QRURlRV[_RUQU%T#|RR$ST$Z$a^WZWRHCwRRRRRRRRRRRRRRRRRRRRRRRRRRRRRRRRRRRRRRRRRRRRRRRRRRRRRRRRRRRRRRRRRRRRRRRRRRRRRRRRRRRRRRRRRRRRRRRRRRRRRRRRRRRRRRRRRRRRRRRRRRRRRRRRRRRRRRRRRRRRRRRRRRRRRRRRRRRRRRRRRRRRRRRRRRRRRRRRRRRRRRRRRRRRRRRRRRRRRRRRRRRRRRRRRRRRRRRRRRRRRRRRRRRRRRRRRRRRRRRRRRRRRRRRRRRRRRRRRRRRRRRRRRRRRRRRRRRRRRRRRRRRRRRRRRRRRRRRRRRRRRRRRRRRRRRRRRRRRRRRRRRRRRRRRRRRRRRRRRRRRRRRRRRRRRRRRRRRRRRRRRRRRRRRRRRRRRRRRRRRRRRRRRRRRRRRRRRRRRRRRRRRRRRRRRRRRRRRRRRRRRRRRRRRRRRRRRRRRRRRRRRRRRRRRRRRRRRRRRRRRRRRRRRRR+!k$,0clUQZa]QUQS$aRejkrWeRhRgRRRRR#ToRTQVTz#fRTQ#e[UyfZejTQjaZSRoRTQ[TpU$hnQsfSZSWW]]UmUxuZXUU_c>Srorerkrorwrorkr=aRURVVRUR^<UrsTrkrkrorwror^?iQTjRTWeda]]cTQU]Y#?4vYRV$sRXT#YRR|RjY]Y]#V]RR#c#vnRcR#cX^[shYk#WR]VqR[Ru#qU#Q^TR_ccZTUURXUh+vUQZa]QUQS$|R]T#[RR#PRn^RTZ#X]RR#g$QRpTQcR#eU[ul^k#YR]oxQoRaRwR#sU_fRe]T",
    "UWRZWR#87f%!:g%!=SW9X#rVQ#,f2j([,w#GT$K;S#Ho$Oo%#Gz#;p#9i4k#G]8IMs;O3ejUQZa]QUQS#h$VQ#P$QujhSTSnV$ZR&^TU#oSTW#Xvi#gk#RbR]u]#g#VYRRjTUbZRR#fjRSvY$PsRUtURR#XTvsrURkRWf_eRUR%(CnTD|S_%!#e;t$O:[_$NJi#83hT#;;iDpERW_E[ER$N@Q#8&VT#8Nl$O:[_$NCzT$E[#;g$N?^Z%,(v(|%Q+,^b[TT+!U1c+0ub[TT+0~2U%a%Z*N_*Lu3w+0u*Lu0~X$y3b*Eo*Bo6d#%%q#%%j3d#X&U0JpG)h)kTTTT#%.W+.ZTK&R#$Oh*Kk*Bi+|#%!x(T#%.k,S#%(S#%&s%X+&_+#]T(u#%#c#$IP#$HZ#a&i%RT#%,d,c+#cTaT*Kd*KiK(w#$Li$S+c(q&r$S6t)V%g]1j*Dv+(T+1nb[TT*~+&w%g++v*Mr3o+1j*Mr0_+#gS+#T3R*Jx*hJMqS#$Lo&d#$Km#%(p.rR$h8p+0a*Kz#$Nx#%3Y8|,z,^,T[X(a*K|K%Y#$Kb%pn#$OoT#$Ha#$Hf#%4z+0u*Ez*Ew+#f0OU%MpWTK%g#%&o0OoFNx#$Dw8z)V&d*k0zR+(q+#X++f*Nc3o+2Q*NY.cX&x(V+#gK!vTTZTT#$Mt#$Ll#%1Q.x#%&d#$Gj<n+0|*Hq+[0NbG!rJM~*Li*LnK$b&iX#%.S0Q1T#$Gw#%%rS+#a[T%LjG#eJMx+#R0Mm0GZ)[)Z6j+1hTT%LrG*cJKjT+:]0cXS+#iK!hK!sT*IP&Y*Ma*GZ#$Ht#$Lq0l0k6l)V(q)T0r+2Qb[TT+2X4uXT*Ln+*R+r3k+2Q+%d+&Pb[TT*OV#$EeT#$Ni+#kS*Ml%gT1u2o2t+)vT*F|)c#$O|e&u#$Kfe*[:n+2cTJMS#$Jq#$JvG#vG#o#%.c#%.tS#%.m#%.v#$NuXS+#cTT*HyT*HzK!l#$Fu0AYG!t#$Ju#",
    "%%a%d%n#%.w1Z+#s+#f+#k+#nS+r*HrT]K#k#_#iG)QG%W#$Na#$OyJMxJO|#z#$G]<_1nS+#|*Ib#o*GeT*N^*Nd*N^%_)^#%&tT#$Ji$k#m#$HrFO_RG%yo$_$Y#$MZ#$Oi#$Gn#$A^#%+a<Q5u)t&t0h++h++e0oTT[*Lp(^+)o*m3m+2u+%v+%|b[TT*Od*~+$R+#nW#%$P#%$[+$RW*Ne5U#%.vJKr*Nw*NtJL_[$lTT$w#%.w+4Y+#z+$RTTa%JR0Et8]+4mS+4f)V*UT+$_&rS+&Y+&db*Nw#^*M^*Ol9y2aX+$X%H~0KZ+$b*Jg*JlJOk#$O_0Ig0Oj#g.9PHBlQQSRYK7y*>S.z|z.|,wlg%$M^%%*_V,w,r%%)z%%+S0i#$AsK4tR*2c*2hRRTQ#aK,s#$@^$nR$^#S*3|R*2k%$Ld$K>rR*4o*4t*4o*4rZVK5X#$Du#%DkL5bhK2g%XK.W&0S$G2yn$!)SK8jTXR*4a*4d*4Q%$M^%%*h*>b*>W#V*CcV+$m#&1w#&)x#k+,^b[TT+!U.|+.bb[TT+.i0o%a%Z*N_*Lu2d+.b*Lu0~X*Ku1d+,p1z*Eo%Oa1$Q#%$]#%$U1~#X(U*<dK0i)kTTTT#%+q++tTK&R#$Et*Aw*Xz*EbV#%O_V#%DX#%EdOsNihRL4kK0c#%,V*m#%(S#%&s#r+$x+#]4e4_(u#$OU$!0e%%$W#%HaTQNt#$Fu#m$s#$Ce%RT#%*~*|+#cT*Dq*DbT*Az*<X(w*hzK1f#%*R4U,b+P*JX*EV%$Lv_%%3c1X#w#q#%DgTNZT&m#$Hg+XT#%Da#%Np5c)V$R]1j*Dv+%n+0Yb[TT*~+%d$R++v*Mr#%If#&)p+0U*Mr0_+#gS%O^1!c*KQ*<|*Jx*hJMqS#$Lo#&$g#O.g%$NeV%$MyR$K9YlK*S#%&[8e.S$h*m%$My$K9S*Cx4t+,y*Kz*CqzK.Z#$Ax%$Ks%%;m7h,z,^,T[X3v*BfK",
    "%YK.i*@u(w+y#$OoT#$Ha#$Hf#%3g+.b*Ez*Ew+#f0OU%MpWT*Ba*GmJMY#%%n0OoFNx#$?n,r2z)V$~*k.gR+&]*[*Nc2Z+0k*NY.cX*JX*;l%%!P%%3u+#gK!vTK,]K,mTT#%P#n#%Ea*:bL1i#&R#%.k7V+o5r%x;Y+.h*Hq+[0NbG!rJM~*Li*LnK$bK.kK)RX#$OV,f,k&f,s%$Og%%2hS+#a*Et*EiT%LjH(]#O.i$!3a#%tL#o+#R#&$w#%Dz*:p*:k#$DX#%$S&V#%Ne#%Dl%$Nr%%)c%d+$nQT*Ds#$@R#$?~?o+0SL#nL#iT*CZ*9c#SK1zJKjTJFv#%.o.XYXS+#iL#V#%Gi#$FzK!sT*IP(m*Cg*M_*C[K0mK.i*:c6z.X#$Jf#%.o)V&])T.^+0kb[TT+0r3bXT*Ln+*R+r2V+0k+%d+&Pb[TT*OV#$EeTG!e0NS+#kS*JUT%%(s%%6V1Z1a+(cT*F|)c#$O|e&u#$BS*<T*<c*<lL,p#m#%JX9Y+0|TJMS#$Jq*B~#SK)tK*]K*U#$@u=U#%,a#$?_%z#$CY#$DQ:V#%,c#$NuXS#&$iL#UTT*Hy(S*8~$K:u%%%r*Hz*DQ*9QK0mK.i*<[$Z#%Ds#%Ey+?lJ#_#$Af%$Ow$!(v$!(o%$OfR*<R*:e%$Ms$!0j#T#%,d.t+#s+#f+#k+#nS+r%%%w$K0TT]*DY*8vK0mK.kK1V#$IT#%Hu#$j#$EPR*<Z*;x#%E]~R#&+Z*H_kTQlSK6y#$Fi#%D^#&1x0YS+#|*Ib#[*Iy%Hd%JeT*N^%%*y$K,f0l*Bw.]2d0Lr0=tQ%$LzZ$K:r*KV#%%aT#$Ji$k#m*>lK.V#$<y#%Da#%w#$De*5w*5r,V%q*@n*:^%cR*1sK3n#$AX#$A^#$CfR#%EXRL5PL4zQL5d*4YTQ%$N_#O*w#O+g$G3w0?d%$M|#O,W#%DhRR%$M^$!4_#%)y=r#%Dk#&*U(a&t.S+*S+*P.Z",
    "TT[*Lp(^+)o*m2X+1b+%v+%|b[TT*Od#%JQ#&$P+$R+#n*GW*G_#&#nOm#%$[+$RW1aL1i#$r#%n#%Ee*8~+#p1*uG#kJKr*Du*9i&(a%JUJL_[$lTT$w#%,d+2s+#z+$RTTa%JR%H|+3o+3XSKOfRRUL0Y+$Y)V(o(j++P&rS+&Y+&db*Nw*JVKN|#%Gs*M^*Ol8f0yX+$X*Eb0>b0KZ+$b*Jg*Jl2_#U*9b.U)d#>JwVRUR#?*e#?*l#?)T#?)W#6:XRXKS&*u%1nRRR^bK[K_^bK^RJw%!,v#Ca#0s#Hfx%!:SR%!;g$Yv#<W$LBi#F|T8^S;^YQX#Jf#GR#HS#$k$<c2*a,DxQQ$Jc=T;c%KZ$CP&a#%yBtF^#B]#Ep%!8]QURREX#pa#s#C~$M&S$M8e$O*v#6cFQQ@U.Oc,HVRS$K_%8e$(q$!w%l%g$;R$<r[#Ow#Mj%#.d$N@i$Bn$>YKm#5ZEn$5j%K_%#&R%,Jz,FRRS$Ni%Kh%Ke#2uSS#.W%)b%$!c#?d$O>ZU$Lg=^#*^$OMR$NDm$Jx%6x#Gx#H]#HW#HbS#Dc$N1s%+3v%,3V%)9pT)5h##g#K[07z%,=R$NEp7j$:v$t&S#e5h$Buad=W$Z%!&q%$0o$%S$#f$(kV:Q$>_#~$$P>S$=Q%#*g%#0Z%#.p%#.k%#.d)x$O1q$O)dq%#0Pb$AZQ#xR$;a#Nz$O4k$NHo)T$NBZ&m%#.iq#Ow#O~#Ou#Wo$O.t(g@W%$!t$&lXka$&e$(QbWia$&^%#1lW&n%#3Q$g$@Q$NEm?g;h#T%#.i%#4gu$NC_#gq$N=s$N=]P$N=g$N;dS$N;WWr$N>c#Y$BR#Os$$i$AZQ]TQ+X+iV$Aa%e%#3b2e#Fa$NAR$NIs%#A[b[QTXURR~UQZa]QUQS#_qRmRZ%U$gaRoR#WR#PaTQ#[^RcaXZTQjZR#RRjR$fR$WVa#mQQXQ^QsQT]YRRRR%OW]2V2SS]eS$.o(w$)]T$)y$",
    "(^$.snX$,kXTW$.c,8s0Bz$&y$(Q$M=z%,3[.>m$O;h(n9~n#X$N3v$N4v#j$O<R$O,|$O,x$O<a%!$r%!%_hv$O?g$O<a$OLP$O8wQ%$O]UQZa]QUQSS$^RkR]RgR#WQyRaR~UYehRZZSRoRv[Ug$rg]^TcSbSSUXTWcRScXTRWS_UU#j*)^3$g0@jSR$ES+Ka(y#B7f$RVZ]RRRRRRRRRRRRRRRRRRRRRRRRRRRRRRRRRRRRRRRRRRRRRRRRRRRRRRRRRRRRRRRRRRRRRRRRRRRRRRRRRRRRRRRRRRRRRRRRRRRRRRRRRRRRRRRRRRRRRRRRRRRRRRRRRRRRRRRRRRRRRRRRRRRRRRRRRRRRRRRRRRRRRRRRRRRRRRRRRRRRRRRRRRRRRRRRRRRRRRRRRRRRRRRRRRRRRRRRRRRRRRRRRfRRRRRRRRRRRRRRRRRRRRRhRRRRRRR5oRRRRRRRRRRRRRRRRRRRRRRRRRRTRRRRRRRRRRRRRRRRRRRRRRRRRRRRRRRRRRRRRRRRRRTRTRRRTRRRR#?bRRRRRRRRRRRRRRRRRRVRRVRRRRRRRRRTRRRRRRRRRRRRRRRRRRRRRRRRRRRRRRRRRRRRRRRRRRRRTRRRRRRRRRRRRRRRRRRRRRRRRRRRRRRRRRRRRRRR&sRXRh$V,h#sk~T#]u^$V#z#ap#Zkpj#WV#XkT#syU#t%W#~v^#m$s#u$a#e#Weh_$[eZ$p#l#Vxnl#Xw#uRe#p%W$m$v$o$ny#n$]#nc#uYr$m~qQ$XfadVRRRRRRRRRRRRR#=E|(Y#&a#!T5[%!<|I@WR#dfRadzRaw#S^Tf#VSRdSRZnX#rRrd#RR#sQVQWR#]R#QRRiUZFOsG!UQ#[RI@T%#MVhZ#0UU%,DdR,7|$0YlTWSZ$0t$0i^rR[S$M=_$M6vIy%!0V%!,UV#]#S]UZKZLp#W]UZR%!#V,S#0Q?|*k%!A_%$4Z#=Z$L6m:zR1Cm.CT6rQ&_[%#$r",
    "#An#=uRtTWipSoxu#=tSRU$O5uMXKy%#$R%#*nR%#%iTTUUZ^VSUR%!7p)U%P3UMX$N5Y$NLU4p%##s%#*_WV%#(Y%#$Q=v$(t$t&S#e%$+Y,k#>Dz#W#RRTW#W#P#S|XRd^RTQTT^dRRmp[g~y#Hh~y#U#PRvYoXTRnkRli]Y]YRZWgT#U#<7f%.Bk%.J~*|)s#:5[#n#YRuRhYRZwXR#W#ffR^R#USYYYczRXZSkR[Rk#a_QS#7AsV^R#p#Scvicvecv#R#qucv#blcvfQ#bvcvecv#_#qR|cvecv#TX#m#3MT]^kZS[dencV[dafVedUhSSVS#EEx#kgUQZa]QUQSt#VY#[#]#[V#XQQ#[V#Z&SRf%o%f#URwR&nSR#vS#uQT#t$WYRZ#u$|RbR#i$^RzRaR#^RR[[of]giR#SRZR_SRwR[R#Y$[R$P$[b%|%~%|$[%SRS(T$r$s$r$s%oyv%d$rfX[RaRfReR#gR#fR*#X&k&pQ(o%!*r#8[V1l[##p#2oR%!;R)EaT#XTQTzmQTRRVTRY]UXkSr#Pparu#WW%+@n#<$WRi#X#W#TRVpb#TQV_SRXTRVRXZSVWYfRR#P_mfnq[R#kQXSR]QQQZ[Z$S#:B^1r#+Y%!0Y$N9Q#59t#U_oeRZbq#Y#P[R#UeWaXZRhVQuR_RTXSQ|%WR^oeRZbq#Y#P[R#UeWaXZRhVQuR_RTXSQfVSVS#>(_%!,P#6KyUQZa]QUQS%pR_V#SRuRhYRZ#TbR#a#zRrR#[#lR#i^]cYofYi#SRZZSRoRz#XRwR#mU#kQ[VRSQXyhVYaRfcRR#HF_%+?W$K8f$MCR.8xDmDjDmDjEjEgDm2a##yDmTDnRDeDbRDmDjRDkDhDkDhDkDhDkDhETeDjDy[bDzRDkDhDmDjDmifDfDmDjRRDWDTRCp2uUQZa]QUQS0Z6TRRRRRRRRRRRRRRRRRRRRRRRRRRRRRRRRRRRRRRRRRRRRRRRRRRR3eEXEUEXE",
    "UFUFREXEUEXTEYREPDzREXEUREVESEVESEVESEVESEneEUEf[bEgREVESEXEUEXifEQEXEURRDqDnRD[$XT#_#YXTQFjEXEUEXEUFUFREXEUEXTEYErEoEPDzREXEUREVESEVESEVESEVESEneEUEf[bEgREVESEXEUEXiDjEXEURRDqDnRD[#Q(_#_#YXTQ=iRRRRRRRRRRRRRRRRRRRRRRRRRRRRRRRRRRRRRRRRRRRRRRRRRRR.uDmDjDmDjEjEgDm1X#!rDmTDnEXEUDeDbRDmDjRDkDhDkDhDkDhDkDhETeDjDy[bDzRDkDhDmDjDmiDPDmDjRRDWDTRCp#Q8jRTRRRTRRRRTXRRRRRRChUQZa]QUQSCQRRRRRRRRRRRRRRRRRRRRRRRRR$ENd$EInRTRRRVRRRRRRRTRRRRRRTRRRRRRRRRRRRRRRRRRRRRRRRR1QDyDvDyDvEvEsDyDvDyTDzRDqDnRDyDvRDwDtDwDtDwDtDwDtEbeDvEX[bEYRDwDtDyDvDyifDrDyDvRRDeDbRC~$XT#_#YXTQF]DyDvDyDvEvEsDy&YR@nDyTDzEfEcDqDlDyDvRDwDtDwDtDwDtDwDtEbeDvEX[bEYRDwDtDyDvDyiD]DyDvRRDeDbRC~#Q$F6STXa]$F,VRRRRRRRRRRRRRRRRRRRRRRRRR6aUQZa]QUQS5yRRRRRRRRRRRRRRRRRRRRRRRRR$F0mTXa]#j$F%d6|6x6|6x7x7u6|6x6|T6~R6s6pR6|6xR6y6v6y6v6y6v6y6v7de6x7Z[b7[R6y6v6|6x6|if6t6|6xRR6g6dR6Q*UUQZa]QUQS&i4h4u4r4u4r5r5o4u4r4uT4vR4m4jR4u4rR4s4p4s4p4s4p4s4p5]e4r5T[b5UR4s4p4u4r4uif4n4u4rRR4a4]R3x$XT#_#YXTQ6X4u4r4u4r5r5o4u4r4uT4v5b5^4m4jR4u4rR4s4p4s4p4s4p4s4p5]e4r5T[b5UR",
    "4s4p4u4r4ui4X4u4rRR4a4]R3x#Q$m#_#YXTQ8_6|6x6|6x7x7u6|6x6|T6~7h7e6s6pR6|6xR6y6v6y6v6y6v6y6v7de6x7Z[b7[R6y6v6|6x6|i6_6|6xRR6g6dR6Q#Q;uRRRRRRRRRRRRRRRRRRRRRRRRR?TUQZa]QUQS;QRRRRRRRRRRRRRRRRRRRRRRRRRRRRRRRRRRRRRRRRRRRRRRRRRRR(~RRRRRRRRRRRRRRRRRRRRRRRRR3eTRVVRVRRRTRRRRRRRRRRRTTRRRRRRTRRRRRRRRRR,)[,Axf^XeQfYfu]fgf[VedeS$FHo$%QrQZSRSUQ$!s$!]$MET#F]RK?at#XjRbeYQlPgVS[ny#[WP]Uwn_#Z_fqR~_im%uoUQZaxkQUxyx|#YS[^XQZSQ[VQ#dt#XjRbeYQlPgVS[ny#[WP]Uwn_#Z_fqR~_im$d$$Bt_R$(X$OC~%cui$O=SR$O>QT#n$O<PiX#Mz#NbiX$O<o%!$r%!&^|$OFX$OFqT$O>r+U$ODg$)&eR0o0r0olUQZa]QUQS#dXZ0h.l.cR0[S0f0i[YTxoVma#[#V#Y#V#Y#T#Y#P#U0jYS.j#YmXw.QR.dU#W0pR.vUR#g0jVcT0e0f0o0t0k]^XR0pd0Y0Z$&Lc$&d#Aj%3ZUX[XUTYUQZa]QUQ,]RR]RRfRRZRRZRR#YRRuRRzRRqRRxRR]RRZRR_RR]SXh#|)w&v#g)oj(sT#]U$gl&d#_$j*x+R+^)T%T&l+Y)n#i#t%R&jQw&a&t%T&U+n&i#x#m$l#Pe$g)V$ukw#d$h$Y&Vd)qy&v%j*m$g&s$t$X(Z#y%y#]#y^%j#V%^#g%z%R(S%_$d&W*q$e#n$t#Waf*n(co$z$u%_(e$|&V)ibeam&Z#P%[)k+T#~#T%v(|p*T*^[(l#l&z^$U&R#t$U%i&|i*Y*T&fRU#b&Z|y#m#j%_#Q#m&a#r$rR(g$i_$]%p$]W(t(Q$PZ%P&q#ad$R%=y5x$",
    "O?g#9$q%P$xQZ%P$n]QX^Q&Qret#PlirYQWRR^XjaXTVRRsQ#[Qdv#[ud#b#[#nv#[uw#[#nv#[u#Pv#[ud$Qv#[u|v#[uu#[#pv#[uu#[#f#[#V#[#nv#[uw#[#nv#[u&[]R#Q#]tqzYQ^RRRReZpcRXRRVRRRR#RQ#YR#<;h%.L^,EiRTZ[ZQQQ%!,zJ8k$ulv#Y$w%W$oXjT#[c#U#]#n#UdRU#c#raTRSwRh$~$SRwVR#SR$SV#cR(kRRRRR(R#Uq^Rv$s$x$UT(iRRRRRR&iv#ZW#][R$n#Zfsmqh$Rc#n$X[_[_RVQtSXQ$zRUR$sR#cR#b#m#jR#m#b#wg#]R#USyRRRT#c#_TW#i#b~R#p#y#j#i#t#kWSiRRRT#U#Rps~#tQ#QRn$(CrQ,Ij%.HR#AZ7Z%,=y%06a%#Lx%#>|#M_)c%!)d%#(^:p2Q%!;l$0UsRRR$+Y$W$+_$OAZh%$3_%!E[VS%!(U%#2W#8IgS#SUQZa]QUQSm%RRfT#SRuRhYRZ#P]R#a$QRvRaR#Y]cYofYg#QRZZSRoR[R|R#q#jRUR#g#QVXYQmfTUaRdaRVRURB>^#%BT#B.x#B0h$vT#B+f#:MkRRRK7ZK7WRK7XK7SRK7]K7YRRRRRTRRK6mK6jkdZR&,c&,_*2qQ#$8zXTWUXTW#$9h#$?u#$>m*4pJNzR?KV?EaQQ#$8m$chr#qT#$7iYf#$8u#$8tYf#$8u%Kk%Mf#B0U#B.k]#$9kYf#$8u#B,i#B0XU#%C_#%Bj#$?a(jY#$8Q#h#$:h#$8Ym#$8d#$:S#qRXob#n#$:b#$:g#$:PYf#$8upQQ#_#u#v#_$z#$8dRRU?Ed#B0hX#B0U#B,r#ZY#%Cd#%@f#$=^K1e#:JY#:IQ#RT#:JU#:EW%xa%^R#:ExXnTT#:FfR*8s*8~#:Fi#:F]#:Fm_#:Fj#:F|#:J~#:Ja|#:Jh#:JcRS#:I[#:IZ#:FV#:FusTQ#:JVb&l#P#g#b#:F",
    "g#:J_#:Jg#B+U*3eT*5rR#B.d><S><X#:FlR*8w*9Q&U*2o#B+f><^RL.ZQ#:FoRR?9w?9lR#:Jn&]TR&^#:J|#:K[bV&]#:Fm#B0R#B0[Q#RU#B*p*6]*6a#B,w#:Gi&w&T%bS&b#:F|WV#:Fd&|#:K_R#:LTT%|b%zj%w&g*4mR#B0QR#:F_L.Q><PR#:Jl&bL,rL,o&[&b#:Fu#B0b$R#~*9mTQK#yR?BkQ#B+Q|$_#xr#$>P#$>i#oQQ.Hw$N!Ub#+s%&,Q#@8QW#@7mS#QUQZa]QUQS#@7X#@7wXfWTQc#@8QR#@6p&tr#RZ]]#U#tj#UR#dWZRZVRRWe]ReS~Q(PRf%W$gou]vit#]xZRitu(oi_WT^Vlo_SS_Q$UURRT%nYT]Rh^R$]pain^b^boRh^VfcR]kQpV$|&rR%nR_Qh#TffRyn_Uyjj|TXRVXkTlQ#V#TTvS_XS$iRR#@7dZQ#@7q#@7zTQ#@8P#@7pd#@7q%$Gy#m,+b$E@nR$O:o%!3]%!)[Nk#?t9l#+g&w@jrFSFx.s$O,d$O7T|SDT$R#F~#Ex*bAPK@t[UQZa]QUQSp#xS_[ZnS]wVWtTQigSnVYXQc#QeRy#ccT|$&FjQ#<9p#aT|Rl[RRZ#PVT#c#phRcR#cU[Y[jR]]QSoR^Ro#kUb#<7|$OEn%,)Q08nUR]gRJP#.~RR$OB^$N?XRR$NDj#h#a_,9dQq]SS&gRU%e&]h*hm$_)tS(nQ%l(W]y#^WZ#g$sRRRR~#q#zUR]T#q%]#US#R#U#PRR#k#g(h&b$v*V#~Q*|R+Y)n#Q*t#|QYR$p#j$h$d$USS%xRRyRo&vRR%txQ&p(jX*kQ*fRR)tQ#]Q$tR(_%u(b&zm%[bRaRbYRRWRb.k+ZhQg#r$PRd(]Q#Ts]Q(m%nRh#j$Q)XdRcRRRRRRR(RR#e&TR$V%l%f)pZR(p#jeQ]R$[ZRRiX)X%eZ,n+VfgZbc)gQ#~Y#[R%Y#j#o#j*u#R)eQ%^$",
    "xRRRWSQT&s#j#v+zX%Z%]QUQVQUbQalQ%UTR)S+r(r]#j(k(X%g$I.y):f&3fSRS#qQQ#o$oUQZa]QUQS#dODuODbwRwRjYRZz%cSR(RR$t#fXR#_RaROEVR]RRZolRgRfU[n^[RfRODnX^%UR$e$bQ%ZqhYQ#gyRZ(a(X%Us$U&_O9fO9sO9nO9gV^O9nO9WO9]O9uR]O9jO9mVV^O@yROBt%PO?tRUmRnyRRRRngaO>p[R#WR$VRUR$g%cQ%fOD|SRY)cO8bUQZa]QUQS&WXU&lR%rOB|O?q%V%SSRO8yO9URRRO@QROCuQ$]RRRR#dOBkRROBpTU%wQO8|UQZa]QUQSO;^R$k]&zR(PX$t%VR%[SR$|R$V#iRRR&YXR#wRURrR*%rRR$+k+]SR+[$+tR$+q$+x$!k$!_R0o#75e#z#QyTYTXbTTTbqaVVZTTTVTRSU_RwUZW#mSUbSWZ[#9JS%!*h%!<y,!r%,Ap%!%S#>7v%TRfT#SRuRhYRZ#P]R#a$QRvRaR#Y]cYofYg#QRZbUSRoR[R|R#q#nR#g#SVRSQmfTUaRdbqRRR#?(m$z%!7s#8p.]%.Ns#a%,4|$OMc,=~.,i$N8~RRRRRRRRRRRRRRRRRRRRRRRRR$N:q^XQZSQUQb%!1[S#%fTQ$H]$MKa$MKZ#ZRRRRRRRRRRRRRRRRRRRRRRRRRV$Ho$HlT$O,ZR%R#|XXcXX,6Y.8i#;m$NDj$NCn$O*a$c%!<c%!6_~#|bV%j~#|$qXtX#|Ws$S~#|%T~#|$w~#|yUXRWR#(y%.!j%,*yd%!)v#KXUQZa]QUQScQQQQQQ#dQ^]#b#oe[[irR|d#i#]R^x#T#o#_#[Q^]#b#mc[[irR#Rh#e#XR^x#T#m#]%sRYuR#TfYXYUncR]Qe]]gbi#?6VSSlUQZa]QUQSfmTp&^RfT#YRyRjYRZ#T]R#m$^RxRcR#eR[R^sRt[[Rk#WR]R]SRwR[R#RR&X&QRUR#yY#cvVy[V",
    "WZ#U#X#[#dVqfTUaRdaRVRUR#:7[R$M@u%,=e,Cm$O2y#Fv%+ExYRRRR^RRhZ$eUQZa]QUQS$xYY]$YdXR^WSvQb#TfxQTiRTotUTZ#RQZZRR[^#SRpTQd$+q+Kr%#1d%.$h.?Z$O7z9a#y8Q4T3n%.!x+Gr#83h#87w%#2q$N3V$.q<x<cT#Fj$%t$&TdUe;h$<d%!Dzqb<k$N@[r(hGAtUQVQVTTUTH+Z$%t$&Th$!a$m$$_;l$<h%!Dxqb<m$N@[r(d$N4VDj$ONlR$s$|$r3f2VlTkj(sT,X,0k,9aR*h(Q%!+m$NG~$NHR$NGz$NNTTQ0dR%,B_P.(s^XQZS.&S.&R[VQbNx$=I~RRRRRRRRRRRRRRRRRRRRRRRRRRRRRRRRRRRRRRRRRRRRRRRRRRRRRRRRRRRRRRRRRRRRRRRRRRRRRRRRRRRRRRRRRRRRRRRRRRRRRRRRRRRRRRRRRRRRRRRRRRRRRRRRRRRRRRRRRRRRRRRRRRRRRRRRRRRRRRRRRRRRRRRRRRRRRRRRRRRRRRRRRRRRRRRRRRRRRRRRRRRRRRRRRRRRRRRRRRRRRRRRRRRRRRRRRRRRRRRRRRRRRRRRRRRRRRRRRRRRRRRRRRRRRRRRRRRRRRRRRRRRRRRRRRRRRRRRRRRRRRRRRRRRRRRRRRRRRRRRRRRRRRRRRRRRRRRRRRRRRRRRRRRRRRRRRRRRRRRRRRRRRRRRRRRRRRRRRRRRRRRRRRRRRRRRRRR7=|IK~(:a^UQZa]QUQS#]R#__nlR#Pl#b#[_#TYc#g#Z_Y~TYaoh]U#URo_eQl#V^Sxx|#Y#r~Uk%UyRSSRXRk]QUQVQ#84l#54QQ#2V$Jd%aURRYbQTaSV%!+[Ea+g(|%%)ygodQSnS]#PdjWudTajZXggf[StYf#](7x+5p%#%UCs%#@t#pUQZa]QUQS#y#TQTR^TQS~RSViRRUgZpepejTUTiRRRhTTVQU$*O[R@;bRxsZTQ^T#q#",
    "lRXRRRRVRVRRday#kf#R]TTRRT]RR#fRjpsXUTpe_|#a^%uSQXRU$sRxsZTQ^T#q#lRXRRRRVRVRRday#kf#R]TTRRT]RR#fRjpsXUTpe_|#a^$ESR#[#VR#QUiRR]b^[t#TTzwa#S^#^#dRb^#c#Xknb#V#w#t#aSQT#=,X#;)lQchTgWdRXTyShTiTdaV_dmrT#P~TWZRR$#PRxsVTW#S#V#Yw#^U#TRRRjRgR]QWRhehq#QUSRaQj#]S(|WTRS$^#wRR#T#^R#tZ#eR#dRXmR#a#jbR^R#YaRRWRWhRTTR#RZWe#URy#ou_r#<OV#9IV#rxQqQTVdR]RXR#TRXTRRR]XUWbRwVS#e[QUbUTYXY#1nRelS]c]SyTdTiTdaV_RYWVnXR#R~S]QT6ydb[bWh]X#UT_$SgtZt]VTX$S$_#PsR]Z^XZv$Ss$VZ$YR~zbp%ZdbqfXhfd#U$Sgtld]ZX$Su$VeSX#S$Ss$b$W~#^LURRR|RXUZRdaRTTQSXRkVSvVSR#:Jq#9zR#Es#;x$U6qg&n&^T.q%#!u%KQ$N8f*~#4q$OBVId^q#i$NGa0w6V,S#rQ$NCPR#*SR#)s.Hx.=r+|$O(^0k%!+f#1W$NA|#5y$o%#6f)9^R#SUQZa]QUQSrUQVQV^&|RfX#URwRhYRZ#TbR#i$^RzRaR#^RY[ofYg#SRZ$TQ#nSRwR[R#RR$P#x%|%~%|t%R$Z&^$r$s$r#Wa%d$rfXYaRheR#gR#fR#=!YR#5=V#7?sVSRTR#U#PQ_bXTw#W#TRRRzuRRRRRRTRRTTTRVRZVSRTR#U#PQ_bXTw#W#TRRRzuRRRRRRTRRTTTRVR#B&W#B!_UQZa]QUQSeZ#ZRfYXlZoQbX|jehRR_Xo^RR^#U^ot#=JP%8UUQ_SSQ]SXgQhTRo#rvdu#[#b#[#nvdw#[#nvd#Pvdu#[$Qvd|vdu#[#pvdu#[#f#[#V#[#nvdw#[#nvd$N4u%!;e$NIly])Q%!0p#!",
    "R$MImQQ%*q%$$g#;t#=a#2q%,=YP%,HS1c2W2X#^0Y1TK=eS[Z[jmQZVSRcrUZmhm%rTaa]Xgb]W[Shml^SYve$dUQZa]QUQS#ZURSVT[$XUTTUS]h$a$pQZQ$[$XRqV#p$T$W$TVaTXc_$^#w#hS[URj#s#~URR#sV%jRYiR^RvcR^aRbhRwRp[R]URgRtR$%Hi$$R$N?a$)Y$)]9y#<Aa#RroTfgTVVRRTVTRSU]RmUXU#SQUZUXYS#<Cb#7T)t#=y%$4Q%Ig$x%4q$7tR#GPUQZa]QUQ%Eonon]onyngn#TnensnUn|nqngncn#Rn$XYUaa#QVeg^Qp]eWfia#meZVR#]QnTWfgjw^QhRoQ$JEuRRRRRRRRRRRRRRRRRRRRRRRRR$N;rRRRRRRRRRRRRRRRRRRRRRRRRR$Y^XQZSQ[VQb%!Ka$M@x%Md,0cQPR.:s%0t$K5x$M)W$N%v%!7TR%!4t#6JVVa#ZcR_qvUfXSRV^TXT#ZQpX#XdaRlct#TtR^VRfRyQ$XVWV^VQgVWVQVTTUT#6*k%!?]$v#>p$NBr#Dv$w#A~Mf3U$O$i$NBZ;z$O0V%!<x%$6o2Y2V+Jj%,2y$NC]4SJW$N*b#oOd*bGqOXSOU$O1s$NFp#Ea#.TN|N~7q$ONVAYf%$#p$*8U#TrV#je$X$UZ#i#Vn]S#j#mcT#T[R#UeWa#y#p#Y|R~eVQWmR_R#URgrQ#ZriSQ#mQSUeRf=Eh#Ue[^t#Tpf#TbfS#W#XjQf#h#k#lzQc#Q#VR#WU#n#k#h#^b#PWlU#QQ#v]#UVd#t#:NlQ#<NqoRTQTVVRRRVTRSU]RkUXUrVSXUTZ#70k#6S$O;xAv#9]#i]%,2v%,7x#d#AY6hV#;j$|$N6k.Y$O*S%!(o$,i$O7f%#=u%!;U%#%bR%#%|#A~qqqQ$Xdqqq$Tqqq$riqqq$jqqq$bqqq$Vqqq$Tqqq$dqqqv#Uqqq$Xqqq$dqqq#yqqq$xdRRRRRRRRRs",
    "vRuRRRRRR#Rqqq$v%+7rR%0(w%0.a0Cc%XRhsYTUZUT09l.6i#<XQQQ0Ne%,Dy.x~?g%X%!>^$v%!3k6u$M=i$7|$OOv$L6Yn$L5i6nKlDe5b#Ef1W%,&Q%0*a#0q#_%!%^QTU$OEz%!*u$1TW]W[T$)o(PT$_%#C~R7s%#Cy#7*zU#iR#_XaR$TW]e]avmf$Q#^#_#|W]e]avmf$QPW#^X#?=S%#&SMc%#OT#2a$ODX%!$an%,EgkRQR%.JbGk%!;j9k0Q#X$Bw#7N_R#]RTQTVTRRRTRSVRiVS#sU]SSVWsR#CMjR%,<Y%!Hk%M|$LGc%P([;d$OFvRRRRRRRRR#,p$Bj#B]#!s$Cq+Jd,8_#+y.Bj%,7Z#y#:l#?VQ$O:v$OHy#a$O+e$O>a&h$O;Y$N8]#B]$N%SQ$Q#MXR$O%Y]$M)a$KOpRR$KOi$LC|o$OOU%#Gb)w%0%d%.)Q$O;WS^RRRRRR$N?U#Hj%$)~$OMpRRRRRRRRRRRRRRRRRRRRRRRRR%+Ch#%CPSQTgoTYUr^en[fkputafo_QclQ#gicTUZQ[XU$))ZBZ#=8i#7Cn#>hR$O8S$N)]R$)c%!,x%,Om%.3|%.3z$[0;^>x?P4a]8hT#0x%KX&6a#7r3q#,V$M(u%!*uE|#P%Jb$M&]$MC^#@W#3j0_%!MiQ%!6g)pCs%!Np0d#4v%.IT#@*m#=Oa$M,_RZSVSUR$M*cQ#@l?fQ#<W%!<Y%Io#F|#,tQ#,[#Kr+v#Bj8_#Ad%LR#GR#HS%>~2*^,D~QQ$J[=T#Hm#2Z%KZ$CP&a%!$Y%#HzF^#B]#Ej%#+Z$S#s#Cz$M&U%(uF[%#(m$f%!=Z.Oc,HZRS$KZ#Dq#5Z%#K~$NEr%K_%!NRRR(y%,Jx,FTRS$Ne%Kh%Ke#2yTW#.W%)f%$!i#?f#<rT$N,q=^%(e#NR$OMX$NDo$Jx%6x#Gx#H]#HW#HbS#Dc.$W%,3Z%)9tT)5h##c#K[07Z%,<a$NEt7j$:r",
    "$t&S#e$Fs$6X$*y:qX=[$_%!&q%$0m$%Q$#l$@SR<n$#x$!P$$[$#o#Na%#*i%#0]%#.r%#.m%#.f)x$O1w$O)jq%#0Rb$$nQ<iR$;Y#Nz$O4k$NBQg$NBX&k%#.iq#Ou#Oz#Os#Wo$O.v(e@S%$!p$&nXma$&^$(UXaca$&W%#1hW&p%#3U$e$?~$NEi?a;h#T%#.k%#4gs$NC_#gq$N=s$N=]P$N=g$N;fS$N;YWr$N>c#Y$BT#Os$$g$$RW~TQFuGwr$$o%gb%#3P#(Q%+HS%,8q%!DsQ$w%4P$N9o#7V$N8[Z$:b$t&S#e%!4x#>P7p#)fNe#(|?kLy>m#><bRYSZ#8%fVT#YR#lfx#bZal#[#VtV#_Q#g#]#W#fde#8%oY]aVTW#=)i.U+r%!._#CiS#,fT$M<cEn#7]YRRTQ#*l%.)f,#d%!3U$MFb#90VUQZa]QUQ#YRRRYcUdedZcR]cbcYTded#><XTU%TR#c#h#|Y#QR$[$XslU#Zzu#ce#fo^&RRSQQ$yVQlcQ$VgQZ#f]W$V$uS#w|c#^$Q$po#VqRR%U#b$Q$h#R#i$k%Q$Ql#P#^#Xu#eX#S#]Q#[$y#y$SQXz$]%ZQ$P#cQX%%#k[%!3h%(lSRTRY>l$O;v$u%!7f*o$N;Y#D~%!:o%!HR%,%l$gZWTlmlaU]RRRZRR[_kdaUxTYR#Q|TnWlRjSaQX^dWbSQS|UUlaUUlUZeU__Y%+BxHTQTTHsC[=g$O&^I(U#YfUQZa]QUQSQ%jRhV#SRuRhYRZ#TR_R#a$URzRaR#Y]cYofYiR#QRZZSRoR[R#RR#u#nRUR#k#~%YQ%T$dhVYRcRfReRVRUR$*0x#?v$NBm%!6V#AR&U%,*X%.&gCd%!4y$O2o#4_%$&VXR#rZT#i#ZV%!N_%!Mb#pd#i%!:b%!<c%#Js#4y#0Z%.Dk,;y$8k$MLcIs$O;Y%#MrUQZa]QUQSEk%.Hm0?oN]#8j$NCc%#Cm#7.W#5Ba#1_,",
    "1P%0(k%!=_.<z.Cv$Wv%!%h%!5h#;0]#Q#TxUQZa]QUQSezmr&URfT#SRuRhYRZ#P]R#c$SRvRaR#YRWYofYg#QRZ]SRqR[R|R#s#lRUR#g#YZ~R#R%]$~%P%okbt#TU$w%gS#TfTUaRdr#TRVRUR#:+V#B|#<*nbWlSXyp#_UX#kkcz#vd_e#qiiYovWZfZTihXk#]#c#VRbeU#k#PZdw#u#f#<5RFg%..RQ.En$O6iCb#BU#!sZ$N.br(zbc8R=](TdQ$M6y4*kRSV6(P%#6p%!5mFi&U$O1w06m*_#FKjR]%bRf%q%l#SRuRhYRZ#P]R#a$QRvRaR#YUYofYg#QRZZSRoR$p$|R$~R%~R#q#jRUR#g#eRR_R_SRYT^RR]cQbkQ^QXRSQof#mR#jUaRdaRRR#8!Z^RZQ^RZNc+<nSVSXQ2tQQ2[QT&bU(lQVQ#VQb[_WRRWR$j$t%xQ]sQQ#cWTQXS[TQURSaZSYRZT|RR)tRRRR#h5cSXQS4u&aQT(e6rQQ5h;k(z*k#d$pQ$_QQ%nWQa$xQQ#p]$u(d]]T*Y)m)d#b&u*[#Xk$p_m#P%f#_*ewR(VRS]#XR%t+v$RR#_&cYXTWZW]%^x&Y)n+k+n1S]#SwRRbv#TTtiV#a#]#W#]R#a^TQ(q)m#W#ht)P)u(eZR(PS#iQ#]_z|VQU#b+Z(xQ+Z+UY+XRTYQT*ju*|]QTUQQ,dvQ(ceVQQtWYVQ^(f*ubWZ)eQQ^QS[*YYV#bj^XRR^de%^],l,oRUWjU[QQf0j)f(SS*lRoXSdTQ[mRTRS#QoXSpXRRUX[RU#g#ve%].P$e#bZ$d$XQQsz&s#UYS#|j%n^]YV#wZ$U]WV#TQ%yQT#[QQms%R#h%v)t#]$n$kS7X_QSRURS(gRRRRRRR#xRS$ZRUZQUSQ%RQQ#[|TQhRRgRTRRRRR[aTQtRR]Q0xRSQfRSQ]RSQ[RSQ)vUTUTU(b_QQQQQQ[&~#hQrQtRSQ&wRUR)bQ,b)rTU",
    "TnQVQr)n*vSRSvSRSp&YQQ&n(pRSQXbRUR%uQrQnQQzQ(]QQ&QVSRYRR,SSRS*vQQjQQQQQSQTUa&ZRSQ#i^#]RSQ#SmQtQ(VRUR,QQ,_)Z^wQQ,|+k^sQQV%lQQ&_(lRSQXbRUR&rQQZQQ#YQQW^%YQ*pQQ2m$kQVQ&T#cRRRRRRmRRRRRRR,Z#]pj#]pj#]p$Up^cp^cp^*PQQ6g#ZQX4naSXQSeQQfQ4g]YVRUR$iTQ$_QSUXYTR#UQQ5wQQ(wQQZQQV$cQTWQQQQQ]2k[*@V$N+nQ$a$_Q$2l,2kQ+DW#c#d#g+FRQPR#EBrUQZa]QUQpUQZRRWQYTQ#B&gTQj#m#Pp[k]a#Y^[v#ls$liv$[Q$fS$o]QQQW~#W#Pp[k]a#Y^[rl#X#S$SQ#ua^k_SR#^$eQ$f[$dUQZa]QUQSn#z%_QT%iT#iR#f_WT_oTT_SVRR*#Va$O@wDV%!L[#Os$O6uKc$N>g$NGg$O#f%!8x$O,rTUT,STG%m$**x#~*R7k7V+c>]GtR%!3Z#OSQ$M@m#@zEi#>H]R#>4W#>4pY#[#7!x0YS#6Ep#7!z0QU#6E]noYxSufSX_Y#>4Y#>3oaiviSX#7*[VTafgZalTcQX^de#7*T#?@Y#C+w#80]%cT(l#NS%!3oQ$a]YYTQTXJa%UM[MbM^*^DZR#6r#9bu$N;R3y+~.Cy.Cl%!4f%.Kn%,&]@S#![%#%P#;0lRUS]RRRR^SS|livsRVTRheRVTQUZRmVS#^VSRXTQUR#E(q%.(XR%.%S0=e$<n%!Br#9*eUQZa]QUQSmqRRpXud]WQ^ruVSfZgTkRzgT#E5v+Oz)P$&TX$!S#Oq;j$<f%!Dzqb<k$N@[r(f$?Q$&TW;j$<f%!Dtqb<q$N@[r(f#<2yQVQl[SUR_SSSZVQZbQQ#n#z#kRuRhYRZd#VR#m#dRaR#s[cYofYhRhZSR|RdRqR#SUSQ#oRSQWuRvTbR%]WRWUXRUQbQ#H)c(g(f%,.d$",
    "N6Y#d$NFZ9]3|QTR.T3e<e%#(b5x$%YR$N3[R&ZQ9e)h#9ka+Y#;d(U$K)Y.Y+x+ySR(^%Z%^$kgl)X)m)t$w&Bx&EpR#v_W#u%_&Bd&Av%l*m*j$J?g$J:W#fTQ%t#b(aV(x(uR+W$p$m,e&5SJm%?Y0VQ(mj)SRT*U)wR+XR*djV(R$JHv$JCfVQ)d&W$yRT&Z&CeT%w&B^,]R(e%[$s(lRR(kX(R(aT(tRRR+f$e]$Z#vW)UQ)j#q+aQ*a]*~$1e$:^RR&@f&@i$U#^#XR^#b$wSRVQ$~%m)[SR%SX%d)j)gR%i]_W$j#~b$[fRb]#SX]YTXT$w&U&lp(Z)_X]+[R&=WT%w&>Y$d#x%zR%e$qUTU%w%k*vTQ*w*XV$$i$,oR#zX]kRR&WR$4j$4cQ&E|&FSR$eRTRS+nR$L%p$L*Q(R#h.R)[)Z$7m3[#*WY%U#7o#7h%V%S#7g#7d%R#:l#:iU%FnRR$@j$M5XRV#VX]TW#a#t#^]o~#PoT[#[ok#ieb^kX[#cQQoib#Q[RugllYr*xR$O+Y$O+v$M,t$M,w$L!d$L!agxRR&a%e(yuR$N*c$MMnRRRRRRRRRRRRRRRRRRRRRRRRR&]$MFfR$MFm$O,b$O(Q%eRRl$O,X$O(Y$M)SGi$MMj%qZd^$M,x$M,c$M,_$M(w%m$O+o$O,QYnuxu%f$MD]%!!m%.IVRc#Q%,.p$NDiZ$O*w#+S%!:U#$_#2v#+v$;vR0Oz)y)zqv)|%.)k)g)XJf$L9_$N8T4cTRSV#@a%!!v$ODW$ODr$O3T$N7V#2u,4Wc%,*w#>fCQ%..P#U+OVX^QdSSadX^QUQS$9v5XS$2P$1jW]W$1[$1T$0x$0mXS0Gr,;a$1TW]W[T$)o(PT$_1PQ#Ek#&p+r$N9a%#;u#VRRdRhUQZa]QUQS$SVv#q$WZgRl#wR$az#]hY#ou#g#lY^Xener#g#_t#_kv]TYe3fWVQQURS1y#xRS$PUSVYVS%#>W$gQ",
    "V#Io%$#|X^QUnSSS+GQ+GTX^Q+GWQ+F|$:o5RTTQ$2V$1jW]W$1[$1T$0x#8dHYXS$O+l%#=k$OLo&gKhHwJtDr%!8SJ=g#^QmQ_QZQu]Q#W#hnQ[Q#USYw~QZTRiQUQk#qRRRR#hcX#aVSVSI>VTQtgVtXsUTQ_#PRxu#QRqtyR$OHg$OG|p#n#cFdErQv#dR#Ujq$%a$$yy.Y,Cx%,F|%,Fz#MQ$r%VRV$XQ$k$vRT$aQQ$XRR$ihTVRpQsRVVZR4WY_RcXRUZV^3|RX_TQYSVSYb#oQQ$s#[sRWZRY$ZSR#TRRpgRhU$qZP^RZ^%WRURsRR%*?R#6V#8i%,<P%,5~*n8J.nRV$d#nmzaUQZa]QUQSi#W#]l$_#jszRRRRRRRRRRRRRRRRRRRRRRRRR_RRRRRRRRRRRRRRRRRRRRRRRRRR%v$b#d#m$sT]z#_$p#i%x$d#jio&bS;M+g#e|UUlqThUUUXXVeWlUdQSR%kfUUUThUUUX_eWlU]R<SfQQ[ReT]yraV_q#SQoRZgTR#WRRRR#hn]VkiX2w#jWTWVT[Qd#|UQZa]QUQS$eya#kV$SRvp#xRR#QRg#YSR|RllRgrc#hTtr#xTQ#STk[fRfZ[aq]#ssqW~lRg&va_aXR[$QRRVa#]#m$R$S$R%Z%eRc$SR#|RcUQZa]QUQS$WTjTUcRWdb^XUcncSVSLL~mSbn#X#s#vSS#w[#Xra#cqSf#TbS#Q[gmSbn#X#s#vSS#w[#Xra#cqSf#TbS#Q[j_#uRWRR#bRTQqlQSR^U]SS]^]$)Ar#8EspUQZa]QUQS$|R]$]$W#SRuRhYRZ#P]R#^#tRnRaR#YUYofYg#QRZ]SQmR[RsR#iUbjQeR]TUWRZWR#,0sQ.Kp#6?i#F6p#h#g#F6q#F6xVaUQZa]QUQS#F7]saelglRsp^R^b[YbSlY^]#ia#F;uRfX]iR#|$^Rz^#aRR[[of]giR#S]R_SRwY#PR$P[%YURbe#f#F9h#",
    "F7k#F6gq#F;[#F;Z_Ub[z#RWjUUX^#WsV#F8_%d#F<YVSYR#F9^fX[RaRfReR#F8y#F6h%)!o%PJGbUQZa]QUQS%fRxRRUsU$hhbih$yRRU$z#~v~eTd$iRRU#gRl#_#YmRRUrcrg$iRRU$jTdmr#hQ#cdU$[pTRSaRhRRUcU[RUgRRU$Vz|#W+&bRRRRRRRRRRRRRRRRRRRRRRRRRRRRRRRRRRRRRRRRRRRRRRRRRRRRRRRRRRRRRRRRRRRRRRRRRRRRRRRRRRRRRRRRRRRRRRRRRRRRRRRRRRRRRRRRRRRRRRRRRRRRRRRRRRRRRRRRRRRRRRRRRRRRRRRRRRRRRRRRRRRRRRRRRRRRRRRRRRRRRRRRRRRRRRRRRRRRRRRRRRRRRRRRRRRRRRRRRRRRRRRRRRRRRRRRRRRRRRRRRRRRRRRRRRRRRRRRRRRRRRRRRRRRRRRRRRRRRRRRRRRRRRRRRRRRRRRRRRRRRRRRRRRRRRRRRRRRRRRRRRRRRRRRRRRRRRRRRRRRRRRRRRRRRRRRRRRRRRRRRRRRRRRRRRRRRRRRRRRRRRRRRRRRRRRRRRRRRRRRRRRRRRRRRRRRRRRRRRRRRRRRRRRRRRRRRRRRRRRRRRRRRRRRRRRRRRRRRRRRRRRRRRRRRRRRRRRRRRRRRRRRRRRRRRRRRRRRRRRRRRRRRRRRRRRRRRRRRRRRRRRRRRRRRRRRRRRRRRRRRRRRRRRRRRRRRRRRRRRRRRRRRRRRRRRRRRRRRRRRRRRRRRRRRRRRRRRRRRRRRRRRRRRRRRRRRRRRRRRRRRRRRRRRRRRRRRRRRRRRRRRRRRRRRRRRRRRRRRRRRRRRRRRRRRRRRRRRRRRRRRRRRRRRRRRRRRRRRRRRRRRRRRRRRRRRRRRRRRRRRRRRRRRRRRRRRRRRRRRRRRRRRRRRRRRRRRRRRRRRRRRRRRR*:yJ$W$O&q+u$O=bJX$#w#BW$NAn(x%!.e%!1x$O$p*h*a%!",
    ")d<Z%!?Q$a%)2Y#UUQZa]QUQS#QUZUTUS#l%pRfX#URwRhYRZ$_%fRbR#i$^RzRaR#^RR[[$f%VfYiR#SRZR#y#jSRwR$b$mR#RR$P#x%|%~%|$[$S$r$sVW$t$rb$^%d$rfX[RaRfReR#gR#fR(Ai%!2v$N>^%!1u.C^#v$l%XU#Y|a#[#^#R#yQX#X#ldw$v#rw$ll#Tl$m$b#lW#susz_r]#X#b$x%n#oU#SqVjp$iW$d#xw#a$V#va#[^$[%g%Z#Sr#h#S#P]vsx_#Q[_#ZavW#f$T$a$N,YQ]UXY[#ZUxbm[QX~yo#WUqzkaX#w$Wxp#h#[mo#^e^pZaq#asbepnQUZ[#Im$|uTQVT]dT$Z#nV$QVSRT%|&W%W#V^R#qU#R#URUQ#p#X%[$o]zTh#]SXYbRjTpVQqliRleSRTqQ#_#e#k$qRZ^bS^]v#u$Q|$_#WUQZa]QUQS(8lQ$]$(o$M?X#.k_%#>j%#Oh$f2y#>s1T$N*QE[$$[%![#0cQ$O,a>S;YRRR%!=r%!=|$O!a#&[SQ#&V#&[D^%MZ%!AyQ$NG]+y)4TRS*|SRT*XUQlUQZa]QUQbea]QUQS*aR&cbuRuRhYRZdRn#vR#o#f^R#|S[gYofYhRlf[SR#PRdRqRvXSQ%bR#uQ)x,X#|*[,Z$T#lk$_*[,l_bsQQ$pQ%e%o,l_,ka*ZT#x,U,P(e(_QcZ,i*f#za)TRRWS%]%e^&uRRVSR+ZQ%pRXX%b(^buRuRhYRZdRrSR#xR#o#f^R#w[gYofYhRlXSR#PRdRqRvXSQ#dSR)k,UZVQQWTUT%~dRcRdRVRkRVRUR%(%c$MFR#![$cl#Ri$Xk^mWbhcX#]zwR$R#tTRSXc#m#jjVk_b[nRRVglRXTQTRTRRRR#V#[R#~n#cy#^R$LJp#|$N@S.Dp,3s$:s:x0iR##RRW$G|#@RR#y#84w#;$e#86r%Z&TUQZa]QUQSg%VRfT#SRuRhYRZ#P]R#a$QRvRaR#YU",
    "YofYg#QRZZSRoR[R|R#q#jRUR#g#e^XYXQQshVYaRfSVeRVRUR#9GZ%KR%#0m+|E^0y#=g$m0S$OJpVQ#9x$+_$6V%&mR#h$L=S$O@bk%$w$I^+wo%$|$KY$R$OHkGQRZWTVaXT2X$NLq$JLZS#X#[YT^Te^xTwdVT[cjeRRv#Xp[^xcQx(0d.x%#!Q%!OQXR$N!r0p1o$N@z$N@sS>z$%P%#1h:~%!Ct%!H_$O+mYSRZUTQ#2nLo#%[R$1Q$7pQ0p$Cc$O_$6d$6U6]#Kb$1r$O*QKkFT%j*s$OK^$<q$M,w%!3T%!+Q#BP$~%#Ld)r$2^>^#5V#<k%>t]%:yQ&g%!LfS%!5]%!*V%!BSRT%>T%=l%!JtS$O4d$NE[$N@Q$NJb%!Fk%!Nt$N*Q$Is$f%Hf$LHr$MKaR)i$xR$MMR6s6p$LFU#5%_wRVhk#SyVxqafRTXTRSU[typTT#PXUfn#74q0U.[$O9r$MKc%+rL^%#(y%#;a$.nSXYWR0Ap1)X#;v$vIb#JS#i$5XAmWQV$(~x$>w$<r%#1d$N@i$?e$%u#HQ%f#8Z$O,^Q8x9P8x$O1kR%#!V#Q#Y$^%!CZ%!Dj%#)e%#*S%#$k%#$n%#$y%#$r$[TTUUZ^VSUR%!8o#)]>w%#%U%##t%#$P%#)m%#(e$YRtTWipSoxu%!>o#!TMV3[$O2g$NLU%!As%##t%#$P#RUT#T#7f$M2p%9P%$1q%$0s#g$!z#Or%#+v$O,f$O+zW)x)^q%#.QR$>U)T$N=k%#.iq%#.z$O)[gUa$&e$&na$&^%#1jW%#0x#C^$O$v;h#T&T$NC_#gq$N=s$N=]$N=g$N;nR$N;[Wr$N>c#YBh$$^$([De$F_V$Cr$CoRR%#3T%#3QR#+m.=Y#$Mq#[UQZa]QUQSuR,XRb*S.i%e*S.i#q*Q%f#q(X*Q%f#q$i*U.m#q*S%h#q%p*U.m%a*U.m%k*U.m#q*S%h#q(]*S%h#q(R*S%h#q$j.eR.",
    "f)c*U.m#q*S%h#q$e#P*S.k.n+y*QR%h#q&p.o.r,P*S%h#q&yR*Q.g.j+wR)~R%f#oR(bR%S*U.m#q*S%h#q%]R*S.m#q*S%h$qR*Q.i.l+w*Q%f#q~%~*U.m0m,x*S%h#q$o#Z*S.i#q*Q%f#q&z.q$f*S.k#q*Q%f#q&W*S%h#q%_m*U.m#q*S&V#ZR#W#T)g#q&b.q.v+y*S(h*S.m.p+|*S%h#q_(d#i*U.m#q*S%h#q$T%h#q%_*W.q#q*S%h#qRR%dR#j*S.i#q*Q%f#q$s*U.m#q*S%h#q%]*U.m%k*U.m#q*S%h#q(]*S%h#q%t*U.m%k*U.m#q*S%h#q(]*S%h#qoR$u*U.m#q*S%h#q%zR*Q.iR.j+wR)~R%hR#oR$[*U.m#q*S%h#q%n*U.m%k*U.m#q*S%h#q(]*S%h#q&xVXUUYjgb[VWb$+%^#?Dud:88kRRRRRRRRR:88z:89PRRRRRRRRR:89a:89dRRRRRRRRR:89s:89vRRRRRRRRR:8:X:8:[RRRRRRRRR:8:l:8:oRRRRRRRRR:8;Q:8;TRRRRRRRRR*R*URRRRRRRRR*f*iRRRRRRRRR*x*|RRRRRRRRR:8=i:85Z+bRRRRRRRRR+q+tRRRRRRRRR,V,YRRRRRRRRR,j,mRRRRRRRRR,~.RRRRRRRRRR.c.fRRRRRR.oRRR:85k:85nRRRRRRRRR:86P:86SRRRRRRRRR:86d:86gRRRRRRRRR:86v:86yRRRRRRRRR:87[:87_RRRRRRRRR:87o:87rRRRRRRRRR:88T:88WRRRRRRRRR;H(Q%BQR_[R]ZVi_[#]xSpUUdsV[RXwlx#]Z#^#dejen#U#tnWVcRRT#+S$6^1vSIu#3vCg&5xeXSQT2,W,Fn#NtR$$kJm%!GsRRRRR$NCpEm1#b(y1@g$M6U$NAn$NMi$Psik2t3Vj3q1ff%!GRQ#%R$NOw$NKv$NLV4b4iIIWR$)*Z$OAf$NFY#7Fx",
    "RRRRRRTQTRTRRRRRRRRRRRRRRTRRRRRRTRTRRRRRRTQTRTRRRRRRRRRRRRRRTRRRRRRTR#>(S$6d,W$OMW#6J^d:88kRRRRRRRRR:88z:89PRRRRRRRRR:89a:89dRRRRRRRRR:89s:89vRRRRRRRRR:8:X:8:[RRRRRRRRR:8:l:8:oRRRRRRRRR:8;Q:8;TRRRRRRRRR*R*URRRRRRRRR*f*iRRRRRRRRR*x*|RRRRRRRRR:8=i:85Z+bRRRRRRRRR+q+tRRRRRRRRR,V,YRRRRRRRRR,j,mRRRRRRRRR,~.RRRRRRRRRR.c.fRRRRRR.oRRR:85k:85nRRRRRRRRR:86P:86SRRRRRRRRR:86d:86gRRRRRRRRR:86v:86yRRRRRRRRR:87[:87_RRRRRRRRR:87o:87rRRRRRRRRR:88T:88WRRRRRRRRR<%Ft(y1!]$LdUSV[,#S,!y,!z,!yd^RhSY,#U,#TS$f%#E~)2jUQZa]QUQS$WQ#wYRmyRR#Sj#Xa~Td|XZs#S^ozjytW#TUrcRWR~QSj#RQi#q#X$VsRUR&9hS#6:V~ihTUibUStURR|]ixeb_]QgUa#U#_TRSh$pUQZa]QUQStUQZSQYTQz$w~ihTUibUStURR|]ixeb_]QgUa#U#_TRSh#=$l$O0Y%!.V$ODoEhBq#Ct$z$M1Q=a#L]$L(T&R&S$L&T%@o#6C~W#=FjTJs#R7y$N?V#IR%!,~$NE_$NH_Fm$OAi%^%!%rR%!.x([%!:~#|vV%!>Q%!:~#|%!<q%!:n_n#|m^#gSR%!=~%!:~#|%!=T%!:~#|%!<w%!:~#|yUXRWR%!Bc$ONm$OEyMf#&XR)r)uV(Y6kRR>T$OOl$OOi$OOh$OCe&w6Q$N:r$NNw$O3h$O7|S1TQ)z,V(W%Q$NFZ$M:~#1b0R$O3ZM]%!,m*m%!GW$OAYj4z4W$MJa$O$S$NF]$NOR&QSS%!!U$N:wT#7hS#9g)j#3T5a$O!P",
    "$M:]#$X8n$O&]$NOP#8R#<mSS4g#5?S#5JU#6h#;f#=^#6m#|,R$O4qAb%!!~%!!|%!?V#,R<XR<Y?y%mVa#[$NBfTR$N@S$N@P$NBS$O3T$OL~#%T.w$NF]$NNy%#$d%#*ZS$n#6b$]#;f#:pMo$OBcr#Trr#Zr#Trrwr#Trr#Vr#Trr#Xr#Trryr#Trr#Rr#Trr#br#Trr$MKg$N&c#Ba&n#NR#OXCl&Y%!M~%!<p$X]kaap@|%#*R%$0f%$3v%Hh$M,Q#2V#0cDV$OHr%!1c#(l%!%u#%c%#;ToQSSVSZaQSSVSZ%#?U%#3r#3j%,8P#DFWRR$Q_QQncg#yUoT]b#b_lRTroRV#lR#WoRZmlQXs#ecRd#Xnrd#jUfB3xf#cYQQ#vpR~#TeQrrcy#s#f#UkhSx$cQ#|#hSX#y$^zlggn#]$ZTae#ZhbdSdes~^c#eV#2[RUR#SRUR%QRURhRSsXRURSURrRURbgRSlTQWR_RUR%bRSsXRURSURrRURbgRSlTQWR_RTQWRCPRURhRS*iRURlRURURURbgRURlTQU_RTQWR,ZXRURSURrRURbgRSlTQWR_RTQWR9yRUR$jRURhRSqVRSQURpRURbgRSlTQWR$oRSoVRSQURnRURbeQjTQWR0zQ+zRURURURbRSZRTQWR_RUR1VRURlRUR$TRURlRURsTRSURpRURdiRURnTQWR%nXRURSURtRURdiRURnTQWR(|RURjRSkQQ,jRURfRSoVRSQURnRSbeRSjTQWR_RTQWR2PRUR[VRSQURpRURZaRSfTQWR]RTQU,aRURdRSoXRURSURpSRSQb0wRURURUR#rRURjRSuXRURSURtRURURUR@jXRURSU~y#%XXRURSUR$nXRURSURjRURZaRSfTQWR_RUR$|RURZaRURfTQWR_RTQWR<_RURjRURsVRSQURpRURdiRSnTQWR%lRURjRSuXRURSURtRURbgRURlTQWR_RTQWR2]RURj",
    "Q6[RURhRSiQhRURbgRSlTQWR7mVRSQURrRUR_eRURjTQWR_RUR+pRS1URUR[VRSQURjRURZRTQWR_RTQWR,iRURbRSiVQQURhRURbRTQWR$RRS,wRURhRSkRSjRURSSR.oVRSQUREZXRURSURhRURX[QbTQU_RTQWREcRUR=_RURbRURURSdRTQWR_RTQWR=ogRSlTQWREfXRURSURjRURZaRSfUR5iRURbQkVRSQURlQZ[QbTQU_RTQWRHTRUR$]RUR[VRSQURpRURZaRSfTQWR_RTQWR#!sXRURSURlRURZaRURfTQWR_RTQWR%fRURhRSSRUR%rQfRURURURdgQlTQWR_RTQWR%^gRSlTQWR_RTQWR,_RURhRS)tRURjRURURURdiRSnTQWR_RTQWR+eVRSQURpRUR#[RURbRSkVRSQURjRURbRURZRTQWR#hgRSlTQWR_RTQWR<xRURjRSsVRSQURrRURbgRURlTQWR2jRS.dRURbQmXRURSURlRUR_RTQWR_RTQWR7XRURfRSSRSBTBQRS;TXRURSURhRURSQbRTQWR_XRURSURlRURZaRURfTQWR_RTQWR<VRURhRS*wRURjRURURURdiRSnTQWR_RTQWR,hVRSQURpRURbgRSlTQWR_RTQWR$]RUR_RSkXRURSURjRS_RTQU_RTQWRG<R%!BZ%#=W$$R.WS._#t+aS*QRR*dR#<At[UQTUQ^v[#P#x#gRsRfYRZdR#VR#m#d^R#s[eYmdYhRjZSR#PRdRqR#UUSQ#^RSQcQSRSZn$uURWUZQX[Q#7LP%$(Y#7Dl#7DmQ%0~$NC[0=zV#_zR]gd$ojojxf#SwYQ#hjcjXZ#Xjoj$T#VzRRs#djcjZR]fQr$gjdd#W$ojfl#_jcj]#Qwf]RR$vy#YaS&P(T$Z#pTRSVj#X$Z$cR$Z$x#TXQQQ#YSsZQQSR%ze([&|R#S#g#n#Q[QSRUQT^RTQfVSR_hU[TV[T]WR$gRV%QV",
    "SRTVSZRURUaQ#aXSZRURUSb#zQXSRWbvRR%ZQTR[QTRsb#w%PRURV0GY%$+r#7Dl#7DmQ"]

end Bookmarks.Codec
