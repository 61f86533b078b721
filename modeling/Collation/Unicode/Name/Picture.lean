/-! Names of characters from U+1D000: notes, figures, pictures and selectors. -/

namespace Collation.Unicode.Name

def pictures : String :=
  "@1D000&BYZANTINEnoavdw,DASEIA,ci,OXEIA EKFONITIKON.DIPLI,VAREIA EKFONITIKON.DIPLI,KATHISTI
   ,SYRMATIKI,PARAKLITIKI,YPOKRISIS.DIPLI,KREMASTI,APESO EKFONITIKON,EXO EKFONITIKON,TELEIA,yl
   ,APOSTROFOS.DIPLI,SYNEVMA,THITA,OLIGONil,GORGONil,PSILON,CHAMILON,VATHY,ISONil,KENTIMAil,ylil
   ,SAXIMATA,PARICHON,STAVROS APODEXIA,OXEIAIil,VAREIAIil,APODERMAil,APOTHEMA,KLASMA,REVMA
   ,PIASMAil,TINAGMA,ANATRICHISMA,SEISMA,SYNAGMAil.META STAVROU,OYRANISMAil,THEMA,LEMOI,DYO,TRIA
   ,TESSERA,KRATIMATA,APESO EXOqx,FTHORAil,IMIFTHORA,TROMIKONil,KATAVA TROMIKON,PELASTON,PSIFISTON
   ,KONTEVMA,CHOREVMAil,RAPISMA,PARAKALESMAil,PARAKLITIKIil,ICHADIN,NANA,PETASMA,KONTEVMA ALLO
   ,TROMIKON ALLO,STRAGGISMATA,GRONTHISMATA,ISONqx,OLIGONqx,OXEIAqx,PETASTI,KOUFISMA
   ,PETASTOKOUFISMA,KRATIMOKOUFISMA,PELASTONqx,ylqxANO,KENTIMAqxANO,YPSILI,APOSTROFOSqx
   ,APOSTROFOI SYNDESMOSqx,YPORROI,KRATIMOYPORROON,ELAFRON,CHAMILI,MIKRON ISON,VAREIAqx,PIASMAqx
   ,PSIFISTONqx,OMALON,ANTIKENOMA,LYGISMA,PARAKLITIKIqx,PARAKALESMAqx,ETERON PARAKALESMA,KYLISMA
   ,ANTIKENOKYLISMA,TROMIKONqx,EKSTREPTON,SYNAGMAqx,SYRMA,CHOREVMAqx,EPEGERMA,SEISMAqx
   ,XIRON KLASMA,TROMIKOPSIFISTON,PSIFISTOLYGISMA,TROMIKOLYGISMA,TROMIKOPARAKALESMA
   ,PSIFISTOPARAKALESMA,TROMIKOSYNAGMA,PSIFISTOSYNAGMA,GORGOSYNTHETON,ARGOSYNTHETON
   ,ETERON ARGOSYNTHETON,OYRANISMAqx,THEMATISMOS ESO.EXO,THEMA APLOUN,THES KAI APOTHES,KATAVASMA
   ,ENDOFONON,YFEN KATO.ANO,STAVROS,KLASMA ANO,DIPLIil,KRATIMAil.ALLO.qx,APODERMAqx,APLI,DIPLI
   ,TRIPLI,TETRAPLI,KORONIS,LEIMMA ENOS CHRONOU.DYO CHRONON.TRION CHRONON.TESSARON CHRONON
   .IMISEOS CHRONOU,GORGONqxANO.PARESTIGMENON ARISTERA:DEXIA,DIGORGON.PARESTIGMENON ARISTERA KATO
   ;ANO:DEXIA,TRIGORGON,ARGON,IMIDIARGON,DIARGON,AGOGI POLI ARGI.ARGOTERI.ARGI.METRIA.MESI.GORGI
   .GORGOTERI.POLI GORGI,MARTYRIA PROTOSsp.ALLI PROTOSsp.DEYTEROSsp.ALLI DEYTEROSsp.TRITOSsp
   .TRIFONIAS.TETARTOSsp:LEGETOSsp.LEGETOSsp.PLAGIOSsp,ISAKIA TELOUS ICHIMATOS
   ,APOSTROFOI TELOUS ICHIMATOS,FANEROSIS TETRAFONIAS.MONOFONIAS.DIFONIAS,MARTYRIA VARYSsp
   .PROTOVARYSsp.PLAGIOS TETARTOSsp,GORTHMIKON N APLOUN:DIPLOUN,ENARXIS KAI FTHORA VOU,IMIFONON
   ,IMIFTHORON,FTHORAilDEYTEROU ICHOU.DIATONIKI PA:NANA.NAOSsp.DIATONIKI DI.SKLIRON DIATONON DI
   .DIATONIKI KE:ZO:NI KATO;ANO.MALAKON CHROMA DIFONIAS;MONOFONIAS,FHTORA SKLIRON CHROMA VASIS
   ,FTHORA SKLIRON CHROMA SYNAFI.NENANO,CHROA ZYGOS.KLITON.SPATHI,FTHORA I YFESIS TETARTIMORION
   .ENARMONIOS ANTIFONIA,YFESIS TRITIMORION,DIESIS TRITIMORION.TETARTIMORION.APLI DYOrz
   .MONOGRAMMOS TESSERArz.DIGRAMMOS EXrz.TRIGRAMMOS OKTOrz,YFESIS APLI DYOrz.MONOGRAMMOS TESSERArz
   .DIGRAMMOS EXrz.TRIGRAMMOS OKTOrz,GENIKI DIESIS.YFESIS,DIASTOLI APLI MIKRI:MEGALI.DIPLI.THESEOS
   ,SIMANSIS THESEOS:DISIMOU:TRISIMOU:TETRASIMOU.ARSEOS:DISIMOU:TRISIMOU:TETRASIMOU,DIGRAMMA GG
   ,DIFTOGGOS OU,STIGMA,ARKTIKO PA.VOU.GA.DI.KE.ZO.NI,ylqxMESO,KENTIMAqxMESO,ylqxKATO
   ,KENTIMAqxKATO,KLASMA KATO,GORGONqxKATO@1D100&noavdeBARLINE+alBARLINE+anBARLINE+iranBARLINE
   +opBARLINE+ffBARLINE+aoREPEATag+ahREPEATag+REPEATdb+DAL SEGNO+DA CAPO+SEGNO+CODA
   +REPEATED FIGURE-1,FIGURE-2,FIGURE-3+FERMATA,am+BREATHba+CAESURA+BRACE+bf+ONE-LINE STAFF
   +TWO-LINE STAFF+THREE-LINE STAFF+FOUR-LINE STAFF+FIVE-LINE STAFF+SIX-LINE STAFF
   +SIX-STRING FRETBOARD+FOUR-STRING FRETBOARD+G CLEF.OTTAVA ALTA:BASSA+C CLEF+F CLEF.OTTAVA ALTA
   :BASSA+DRUM CLEF-1,CLEF-2@1D129+ljMEASURErb+alSHARP,FLAT+FLAT UP,cp+NATURAL UP,cp+SHARP UP,cp
   +freoSHARP.FLAT+COMMON TIME+CUT TIME+OTTAVA ALTA,BASSA+QUINDICESIMA ALTA,BASSA+MULTIrb+WHOLErb
   +corb+frrb+iarb+uqrb+THIRTY-SECONDrb+SIXTY-FOURTHrb+brbcTWENTY-EIGHTHrb+Xmb+chmb+buXmb+bnmbaz
   .ax+bimbUPaz:ax.aoaz:ax.ahaz:ax.cpaz:ax.UPahaz;ax+mgmbaz.ax+TRIANGLE-ROUNDmbcpaz:ax+cqmb+VOIDmb
   +mbax+NULLmb+CLUSTERmbaz.ax+ey+WHOLEoz+cooz+froz+iaoz+uqoz+THIRTY-SECONDoz+SIXTY-FOURTHoz
   +brbcTWENTY-EIGHTHoz+dvSTEM,SPRECHGESANG STEM,TREMOLO-1,TREMOLO-2,TREMOLO-3+FINGERED TREMOLO-1
   ,TREMOLO-2,TREMOLO-3+dvAUGMENTATIONbv,FLAG-1,FLAG-2,FLAG-3,FLAG-4,FLAG-5+BEGIN BEAM+owBEAM
   +BEGIN TIE+owTIE+BEGIN SLUR+owSLUR+BEGIN PHRASE+owPHRASE+dvfs,STACCATO,TENUTO,STACCATISSIMO
   ,MARCATO,MARCATO-STACCATO,ACCENT-STACCATO,LOURE+ARPEGGIATO UP,cp+dvDOIT,RIP,FLIP,SMEAR,BEND
   ,alzy,ewzy+RINFORZANDO+SUBITO+Z+PIANO+MEZZO+FORTE+CRESCENDO+DECRESCENDO+GRACEozoo.NOoo+TR+TURN
   +ccTURN+TURNoo,UP+daSTROKE-1,STROKE-2,STROKE-3,STROKE-4,STROKE-5,STROKE-6,STROKE-7,STROKE-8
   ,STROKE-9,STROKE-10,STROKE-11+HAUPTSTIMME+NEBENSTIMME+owOF STIMME+DEGREEoo+dvcpBOW,UP BOW
   ,HARMONIC,SNAP PIZZICATO+PEDALba,UPba+coPEDALba+GLISSANDO UP,cp+abFINGERNAILS+DAMP,ALL+MAXIMA
   +LONGA+BREVIS+SEMIBREVISaz,ax+MINIMA,ax+SEMIMINIMAaz,ax+FUSAaz,ax+LONGA PERFECTArb,IMPERFECTArb
   +BREVISrb+SEMIBREVISrb+MINIMArb+SEMIMINIMArb+TEMPUS PERFECTUM CUM PROLATIONE PERFECTA
   ;IMPERFECTA;PERFECTA DIMINUTION-1,IMPERFECTUM CUM PROLATIONE PERFECTA;IMPERFECTA<DIMINUTION-1
   <DIMINUTION-2<DIMINUTION-3+CROIX+GREGORIAN C CLEF,F CLEF+bnB+VIRGA+PODATUS+CLIVIS+SCANDICUS
   +CLIMACUS+TORCULUS+PORRECTUS,FLEXUS+SCANDICUS FLEXUS+TORCULUS RESUPINUS+PES SUBPUNCTIS
   +KIEVAN C CLEF,owOF PIECE,anoz,RECITATIVEba,WHOLEoz,cooz,frozSTEMcp;UP,iaozSTEMcp;UP,FLATag
   +SORI+KORON@1D200&kaVOCALrsSYMBOL-1,SYMBOL-2,SYMBOL-3,SYMBOL-4,SYMBOL-5,SYMBOL-6,SYMBOL-7
   ,SYMBOL-8,SYMBOL-9,SYMBOL-10,SYMBOL-11,SYMBOL-12,SYMBOL-13,SYMBOL-14,SYMBOL-15,SYMBOL-16
   ,SYMBOL-17,SYMBOL-18,SYMBOL-19,SYMBOL-20,SYMBOL-21,SYMBOL-22,SYMBOL-23,SYMBOL-24,SYMBOL-50
   ,SYMBOL-51,SYMBOL-52,SYMBOL-53,SYMBOL-54*INSTRUMENTALrsSYMBOL-1,SYMBOL-2,SYMBOL-4,SYMBOL-5
   ,SYMBOL-7,SYMBOL-8,SYMBOL-11,SYMBOL-12,SYMBOL-13,SYMBOL-14,SYMBOL-17,SYMBOL-18,SYMBOL-19
   ,SYMBOL-23,SYMBOL-24,SYMBOL-25,SYMBOL-26,SYMBOL-27,SYMBOL-29,SYMBOL-30,SYMBOL-32,SYMBOL-36
   ,SYMBOL-37,SYMBOL-38,SYMBOL-39,SYMBOL-40,SYMBOL-42,SYMBOL-43,SYMBOL-45,SYMBOL-47,SYMBOL-48
   ,SYMBOL-49,SYMBOL-50,SYMBOL-51,SYMBOL-52,SYMBOL-53,SYMBOL-54&dvkanoTRISEME,TETRASEME,PENTASEME
   &kanoLEIMMA@1D2E0&MAYANqdeh+br+bl+at+bm+bt+du+by+bp+cu+gw+px+nt+rt+ru+oq+qj+pl+pm+rv
   @1D300&wsmkqv&DIGRAMmkHEAVENLYqv+HUMANqv+EARTHLY HEAVEN,HUMAN+qv&TETRAGRAMmked+hhbu+MIRED
   +BARRIER+KEEPINGad+CONTRARIETY+ASCENT+OPPOSITION+BRANCHING OUT+DEFECTIVENESS OR DISTORTION
   +DIVERGENCE+YOUTHFULNESS+INCREASE+PENETRATION+REACH+CONTACT+HOLDINGxu+WAITING+FOLLOWING+ADVANCE
   +RELEASE+RESISTANCE+EASE+JOY+CONTENTION+ENDEAVOUR+DUTIES+CHANGE+DECISIVENESS+lpRESOLUTION
   +PACKING+LEGION+CLOSENESS+KINSHIP+GATHERING+STRENGTH+PURITY+FULLNESS+RESIDENCE+LAW OR MODEL
   +RESPONSE+GOING TO MEET+ENCOUNTERS+STOVE+GREATNESS+ENLARGEMENT+PATTERN+RITUAL+FLIGHT
   +VASTNESS OR WASTING+CONSTANCY+MEASURE+ETERNITY+UNITY+DIMINISHMENT+gmlv+GUARDEDNESS
   +GATHERING IN+MASSING+ACCUMULATION+EMBELLISHMENT+DOUBT+WATCH+SINKING+INNER+DEPARTURE+DARKENING
   +DIMMING+EXHAUSTION+SEVERANCE+STOPPAGE+HARDNESS+COMPLETION+CLOSURE+FAILURE+AGGRAVATION
   +COMPLIANCE+ONmmVERGE+DIFFICULTIES+LABOURING+FOSTERING@1D360&COUNTING ROD UNITctbr.bl.at.bm.bt
   .du.by.bp.cu+TENSctbr.bl.at.bm.bt.du.by.bp.cu&hoTALLYbabr,bl,at,bm,bt&TALLYbabr+bt
   @1D400&pwlpacA,B,C,D,E,F,G,H,I,J,K,L,M,N,O,P,Q,R,S,T,U,V,W,X,Y,Z+adA,B,C,D,E,F,G,H,I,J,K,L,M,N
   ,O,P,Q,R,S,T,U,V,W,X,Y,Z*rgacA,B,C,D,E,F,G,H,I,J,K,L,M,N,O,P,Q,R,S,T,U,V,W,X,Y,Z+adA,B,C,D,E,F
   ,G@1D456,I,J,K,L,M,N,O,P,Q,R,S,T,U,V,W,X,Y,Z*lprgacA.B.C.D.E.F.G.H.I.J.K.L.M.N.O.P.Q.R.S.T.U.V
   .W.X.Y.Z,adA.B.C.D.E.F.G.H.I.J.K.L.M.N.O.P.Q.R.S.T.U.V.W.X.Y.Z*jcacA@1D49E,C,D@1D4A2,G@1D4A5,J
   ,K@1D4A9,N,O,P,Q@1D4AE,S,T,U,V,W,X,Y,Z+adA,B,C,D@1D4BB,F@1D4BD,H,I,J,K,L,M,N@1D4C5,P,Q,R,S,T,U
   ,V,W,X,Y,Z*lpjcacA.B.C.D.E.F.G.H.I.J.K.L.M.N.O.P.Q.R.S.T.U.V.W.X.Y.Z,adA.B.C.D.E.F.G.H.I.J.K.L
   .M.N.O.P.Q.R.S.T.U.V.W.X.Y.Z*FRAKTURacA,B@1D507,D,E,F,G@1D50D,J,K,L,M,N,O,P,Q@1D516,S,T,U,V,W,X
   ,Y@1D51E+adA,B,C,D,E,F,G,H,I,J,K,L,M,N,O,P,Q,R,S,T,U,V,W,X,Y,Z*iwacA,B@1D53B,D,E,F,G@1D540,I,J
   ,K,L,M@1D546,O@1D54A,S,T,U,V,W,X,Y@1D552+adA,B,C,D,E,F,G,H,I,J,K,L,M,N,O,P,Q,R,S,T,U,V,W,X,Y,Z
   *lpFRAKTURacA.B.C.D.E.F.G.H.I.J.K.L.M.N.O.P.Q.R.S.T.U.V.W.X.Y.Z,adA.B.C.D.E.F.G.H.I.J.K.L.M.N.O
   .P.Q.R.S.T.U.V.W.X.Y.Z*fnacA,B,C,D,E,F,G,H,I,J,K,L,M,N,O,P,Q,R,S,T,U,V,W,X,Y,Z+adA,B,C,D,E,F,G
   ,H,I,J,K,L,M,N,O,P,Q,R,S,T,U,V,W,X,Y,Z+lpacA.B.C.D.E.F.G.H.I.J.K.L.M.N.O.P.Q.R.S.T.U.V.W.X.Y.Z
   ,adA.B.C.D.E.F.G.H.I.J.K.L.M.N.O.P.Q.R.S.T.U.V.W.X.Y.Z+rgacA.B.C.D.E.F.G.H.I.J.K.L.M.N.O.P.Q.R
   .S.T.U.V.W.X.Y.Z,adA.B.C.D.E.F.G.H.I.J.K.L.M.N.O.P.Q.R.S.T.U.V.W.X.Y.Z+lprgacA:B:C:D:E:F:G:H:I
   :J:K:L:M:N:O:P:Q:R:S:T:U:V:W:X:Y:Z.adA:B:C:D:E:F:G:H:I:J:K:L:M:N:O:P:Q:R:S:T:U:V:W:X:Y:Z
   *MONOSPACEacA,B,C,D,E,F,G,H,I,J,K,L,M,N,O,P,Q,R,S,T,U,V,W,X,Y,Z+adA,B,C,D,E,F,G,H,I,J,K,L,M,N,O
   ,P,Q,R,S,T,U,V,W,X,Y,Z*rgadlxI.J@1D6A8*lpacic,qe,lh,mc,hj,vo,up,kb,kp,nj,qp,MU,NU,XI,jo,PI,qq
   ,kbav,jr,xf,gs,sc,ss,xw,hk+NABLA+adic,qe,lh,mc,hj,vo,up,kb,kp,nj,qp,MU,NU,XI,jo,PI,qq,anjr,jr
   ,xf,gs,sc,ss,xw,hk+zmpy+hjav+kbav+njav+scav+qqav+PIav*rgacic,qe,lh,mc,hj,vo,up,kb,kp,nj,qp,MU
   ,NU,XI,jo,PI,qq,kbav,jr,xf,gs,sc,ss,xw,hk+NABLA+adic,qe,lh,mc,hj,vo,up,kb,kp,nj,qp,MU,NU,XI,jo
   ,PI,qq,anjr,jr,xf,gs,sc,ss,xw,hk+zmpy+hjav+kbav+njav+scav+qqav+PIav*lprgacic.qe.lh.mc.hj.vo.up
   .kb.kp.nj.qp.MU.NU.XI.jo.PI.qq.kbav.jr.xf.gs.sc.ss.xw.hk,NABLA,adic.qe.lh.mc.hj.vo.up.kb.kp.nj
   .qp.MU.NU.XI.jo.PI.qq.anjr.jr.xf.gs.sc.ss.xw.hk,zmpy,hjav,kbav,njav,scav,qqav,PIav*fnlpacic.qe
   .lh.mc.hj.vo.up.kb.kp.nj.qp.MU.NU.XI.jo.PI.qq.kbav.jr.xf.gs.sc.ss.xw.hk,NABLA,adic.qe.lh.mc.hj
   .vo.up.kb.kp.nj.qp.MU.NU.XI.jo.PI.qq.anjr.jr.xf.gs.sc.ss.xw.hk,zmpy,hjav,kbav,njav,scav,qqav
   ,PIav,rgacic:qe:lh:mc:hj:vo:up:kb:kp:nj:qp:MU:NU:XI:jo:PI:qq:kbav:jr:xf:gs:sc:ss:xw:hk.NABLA
   .adic:qe:lh:mc:hj:vo:up:kb:kp:nj:qp:MU:NU:XI:jo:PI:qq:anjr:jr:xf:gs:sc:ss:xw:hk.zmpy.hjav.kbav
   .njav.scav.qqav.PIav*lpacyt+adyt@1D7CE+cteh,br,bl,at,bm,bt,du,by,bp,cu*iwcteh,br,bl,at,bm,bt,du
   ,by,bp,cu*fncteh,br,bl,at,bm,bt,du,by,bp,cu+lpcteh.br.bl.at.bm.bt.du.by.bp.cu*MONOSPACEcteh,br
   ,bl,at,bm,bt,du,by,bp,cu&SIGNWRITINGfacm*hacm*xbcm*ymcm*hicm*jvcm*facmld*hacmld*fadmygcmld
   +cmimKNUCKLE,CUPPED,mi.ft*hacmHINGE*facmbb*hacmbb*facmbbld.imKNUCKLES.mi,UPbbmi,mibbUP,bbht
   :cmld:bbld:CUPPED:mi.mv*hacmbbmv*fabblddgcm+cmlddgbb,bbdm*hacmbbdm*facmbbgydmld.lddmgy.dmld
   .mioudmmj,UPbbmidmmj<ht,mibbUPdmmj,bbUPoudmki.dmCUPPED:dn:HOOKED:mi+dmkgcmbbgy+cmbbhtdmmj<ht<ld
   +bbdmHOOKEDcmUP+cmdmHOOKEDbbUP,bbhtmidmmj.mvdmmj.htdmki:CUPPEDdmki+bbdmCUPPEDcmUP
   +cmdmCUPPEDbbUP+bbdmdncmUP;mi+cmdmANGLED OUTbbUP:INbbUP.dnbbUP,bbdmhtmi:ANGLED OUT;
   +bbdmANGLED OUTcmUP<mv:cmUP+cmdmHOOKEDbbmi*HAND-FLATbmhs.ld.mi.ht:SPLIT*HAND-CLAWbmhsht
   *fabmhshtld*hibmhsht*HAND-FLATbthsou+HEELbthsou+bthsoubmld+HEELbthsoubmld+bthsould+HEELbthsould
   +bthsoudmki*xbbthsou:ej*hibthsouej*ymbthsou*HAND-FLATbthsoumi;dmmj;NOdm++kgPALM FACINGS+HEEL
   +dmmj+HEELdmmj+dmld,ki+SPLITcmdmmj,ed.dmmj;ld,eg*HAND-CLAW+dmmj+NOdm+dmki*ynCURLICUE+*xbej+
   +ejdmmj+dmmj+ejNOdm+NOdm+ejdmki+dmki*HAND-CURLICUEej+*ha*ym+dmmj+NOdm+dmki*hiej,dmki++ad+ejdmmj
   +dmmj+ejNOdm+NOdm+dmmjTOUCHINGcm,kgbbdx*jv*facmbbdx*hacmbbdx*hicmbbdx*jvcmbbdx*hieg*facmbbdxld
   :ht*hicmbbdxht*faegcp.RIPPLEgy:rh.OTHERSdn,UP+dmygegUP*haegUP*ymegUP*jvegUP*faegimKNUCKLE,ld
   ,TOUCHESdm,dm*hiegdm*faegcmdm*hiegcmdm*jvegcmdmcmdmOUT<*faegcm*haegcm*hiegcm*jvegcm*facmbbeg
   *hacmbbeg*hicmbbeg+dx*jvcmbbeg*facmbbgdeg*hacmbbgdeg*fadxcp*hidxcpcmdmbobb*jvdxcpbbdmcmgd
   *fadxUP,imKNUCKLE,eg*hadxeg*ymdxeg*jvdxeg*fadxbb.ht.imKNUCKLES,cm,dm*yndxdm*facmdxeg*hacmdxeg
   *HAND-CURLICUEcmdxegON*yncmdxegOUT:IN:yg*xbcmdxeg*hicmdxeg*jvcmdxegOUT:*fabbcp*hibb*fabbUP
   *habbUP*fabbimKNUCKLE,UPdmmj*ynbbdm*fabbdmeg,eg,dxeg*habbdxeg*HAND-CURLICUEbbdxegON*xbbbdxeg
   *hibbdxeg*jvbbdxegOUT:IN:*habbdxegld*HAND-CLAWbbdxeght;mj*ynbbdxeghtOUT;IN;*hicmmi*facmdmmj
   *hicmdmmj*facmdmmjdmds;ht;ld:cmld:BOTHld:cmHINGE.kicmgy;ld.bo.CURLICUE.nldmkr
   *HAND-CLAWcmdmnldmkr*facmdmnldmyg.bu*xbcmdm.ej*hicmdmej.ee..ad*jvcmdmOUT.IN.*fadm,HEEL,mjds.ht
   .ld,ki,kgcmbb.bbdx.dxeg,ygblhs,dgblhs,ygaths.bmhs,dgbmimKNUCKLES++HEEL*TOUCHde+lj+kg*GRASPde+lj
   +kg*STRIKEde+lj+kg*BRUSHde+lj+kg*RUBde+lj+kg*SURFACE SYMBOLS+kg*SQUEEZEeede+adde+eelj+adlj
   +SEQUENTIAL*FLICKeede+adde+eelj+adlj+SEQUENTIAL*SQUEEZE FLICKgn*MOVEMENT-HINGE UPcpee.ad
   ,SEQUENTIAL+cpSEQUENTIAL+UPcpgnee:ad+mjTOmjwt*fxxcCONTACT*foxcCONTACT*fxdegyad.cb.ee.sq,trFLEX
   +algy,trFLEX,gn.trFLEX+gd+ewgysa,trFLEX,gn.trFLEX+BENDad,cb,ee+hfad,cb,ee,ROTATION+tpad,cb,ee
   +quad,cb,ee+wjad,cb,ee+PEAKSad,cb,ee*TRAVEL-WALLPLANEnmde,al,gn+myde,al,gn+SHAKING+ARM SPIRALde
   .al.ew*MOVEMENT-DIAGONAL AWAYad,cb,ee,sq+TOWARDSad,cb,ee,sq+kgAWAYad.cb.ee.sq,TOWARDSad.cb.ee
   .sq*fodegyad.cb.ee.sq,trFLEX+algy,trFLEX,gn.trFLEX+gd+ewgysa,trFLEX,gnsa.trFLEX+BEND+hfad,cb,ee
   +tp+quad,cb,ee+wjad,cb,ee+PEAKSad,cb,ee*TRAVEL-FLOORPLANEmyde,al,gn+nmde,al,gn+SHAKING*fxnlfrad
   .cb.ee.sq,HALF-CIRCLEad.cb.ee.sq,THREE-QUARTERbuad:cb+HUMPad,cb,ee+qzad,cb,ee,adal+ofnlalad:cb
   :ee.ewad:cb:ee+nlTHENgy+rhgdad.cb*nmde+al+gj*fxSHAKING+nlgfFRONTzl+HUMPgfFRONTzl+qzgfFRONTzl
   +ofgfFRONTzl*nmdegfFRONTzl+algfFRONTzl+gngfFRONTzl*fxnlgfCHEST+HUMPgfCHEST+qzgfCHEST+ofgfCHEST
   *nmdegfCHEST+algfCHEST+gngfCHEST*fxofdsPATHad:cb:ee*fonlgfslad:ee+HUMPgfsladal:eeal:adew:eeew
   +qzgfsladde:eede:adal:eeal+ofgfslad:ee*mydegfsl+algfsl+gngfsl*fonlgfwbad:ee+HUMPgfwbadal:eeal
   :ewadew;eeew+qzgfwbadde:eede:adal:eeal+ofgfwbad:ee*mydegfwb+algfwb+gngfwb*fonlad,cb,ee,sq
   ,COMBINED+HUMPad+qzad+ofSNAKE,ad,ee*myde+al+gn*foSHAKINGrq*fxARMbuadde.cbde.adal.cbal
   *foARMbugfzladde;cbde;eede;adal;cbal;eeal*fxtrbuFRONTde:al*fotrbugfzlde;al*fxxcmxde.al
   *foxcmxgfzlde;al*DYNAMICbwad,ee+FAST+SLOW+TENSE+RELAXED+SIMULTANEOUS,gn+EVERY OTHER TIME
   +GRADUAL*qh+RIM+fxgy,TILT+fogy+fxnl+fonl+sabu*cxDIRECTION POSITION NOSEkiTILTING:UP ORcp
   =TILTING*EYEBROWSgyUP,ik,cp*DREAMY EYEBROWSikcp,cpik,UPik,ikUP*FOREHEADik+CONTACT+un*ovej
   +SQUEEZED+gm*EYE BLINKde,lj*ovcoej+WIDEej+cogm+WIDENINGsa*EYE WINK*EYELASHES UP+cp+FLUTTERING
   *yogy,al,gn*EYEGAZE-FLOORPLANEgy,al,gn*yorh*EYEGAZE-FLOORPLANErh*yoCIRCLING*CHEEKS PUFFED+ik
   +SUCKED*TENSE CHEEKSev,bb,ft*EARS*NOSEik+CONTACT+WRINKLES+WIGGLES*AIR BLOWING OUT+SUCKING IN
   +BLOWadROTATIONS+SUCKadROTATIONS*BREATH INHALE+EXHALE*lvgmik,ki,CONTACT+SMILE,un,ej+FROWN,un,ej
   +ejbu,ki,un,OVAL.un.YAWN,sm.un.YAWN+KISS,ki,un+TENSE,ki,SUCKED*LIPS PRESSED TOGETHER*LIPcvdgdh
   +dhdgcv*lvzo+WRINKLESde,al*zySTICKING OUT FAR+LICKING LIPS+TIPkgLIPS,TOUCHINGkrlv+krlvRELAXED
   +MOVES AGAINST CHEEK+edSTICKING OUT,krlv*TEETH+sa+ONzy.sa,LIPS.sa+BITE LIPS*fxJAW*foJAW*NECK
   *HAIR*EXCITEMENT*SHOULDER HIP SPINE,POSITIONS*WALLPLANE SHOULDER HIP MOVE
   *FLOORPLANE SHOULDER HIP MOVE*SHOULDER TILTINGkuWAIST*TORSO-WALLPLANEgySTRETCH+rhBEND
   *TORSO-FLOORPLANE TWISTING*dhBODY TILTINGkuHIP JOINTS*LIMB COMBINATION+LENGTH-1+LENGTH-2
   +LENGTH-3+LENGTH-4+LENGTH-5+LENGTH-6+LENGTH-7*xc*LOCATION-WALLPLANElg*LOCATION-FLOORPLANElg
   *LOCATION HEIGHT+WIDTH+DEPTH+qhNECK+TORSO+LIMBS DIGITS*en*hhez*kx*iq*cq@1DA9B*vhMODIFIER-2
   +MODIFIER-3+MODIFIER-4+MODIFIER-5+MODIFIER-6@1DAA1*ROTATION MODIFIER-2+MODIFIER-3+MODIFIER-4
   +MODIFIER-5+MODIFIER-6+MODIFIER-7+MODIFIER-8+MODIFIER-9+MODIFIER-10+MODIFIER-11+MODIFIER-12
   +MODIFIER-13+MODIFIER-14+MODIFIER-15+MODIFIER-16@1DF00&feadaaFENGgvabTRILL,bzjcG*aaadaccrG
   *adaabzK*aaadacLabyr*adaaLEZHabdjbo,crYabyr,bzENG,crRabemxvapdjbo,Tabboapdjbo*aadjuoabdjbo
   *adaaxeabaleb<apoe,crTaboe*aaccguezaboe+STRETCHED Caboe+adaccrK*adaaLabts,DEZHgvabgpbo
   ,Labyrapgpbo,ENGabgpbo,crRabgpbo,Rabtsapgpbo,TESHgvabgpbo,EZHabgpbo,DEZHgvabdjbo,Iabauapdjbo
   ,Oabdjbo,TESHgvabdjbo,Cabdjbo,Saboe@1E000&dvGLAGOLITICaaAZU,BUKY,VEDE,GLAGOLI,DOBRO,YESTU
   ,ZHIVETE@1E008,ZEMLJA,IZHE,asIZHE,I,DJERVI,KAKO,LJUDIJE,MYSLITE,NASHI,ONU,POKOJI,RITSI,SLOVO
   ,TVRIDO,UKU,FRITU,HERU@1E01B,SHTA,TSI,CHRIVI,hm,yv,YERI,YATI@1E023,YU,adpc@1E026,YO,ztadpc
   ,BIGpc,ztBIGpc,FITA@1E100&NYIAKENG PUACHUE HMONGaaMA.oy.NTA.TA.HA.NA.XA.NKA.CA.LA.SA.ZA.NCA
   .NTSA.KA.DA.hz.NRA.VA.NTXA.TXA.FA.RA.QA.YA.NQA.PA.XYA.NPA.DLA.NPLA.ge.MLA.PLA.GA.vl.A.AA.I.U.O
   .OO.E.EE.W@1E130,TONE-B,TONE-M,TONE-J,TONE-V,TONE-S,TONE-G,TONE-D,agmkmh:THING:LOCATION:ANIMAL
   :INVERTEBRATE.XW XW,jlLENGTHENER@1E140,cteh.br.bl.at.bm.bt.du.by.bp.cu@1E14E,LOGOGRAM NYAJ,dnCA
   @1E290&TOTOaaPA+BA+TA+DA+KA+GA+MA+NA+hl+SA+hw+YA+WA+JA+HA+RA+LA+I+BREATHY I+IU+BREATHY IU+U+E
   +BREATHY E+EO+BREATHY EO+O+AE+BREATHY AE+A*agomeo@1E2C0&WANCHOaaAA+A+BA+CA+DA+GA+YA+jh+LA+NA+PA
   +TA+iu+FA+SA+hm+JA+ZA+WA+VA+KA+O+AU+RA+MA+id+HA+E+I+hl+U+LLHA+oy+TRA+ONG+AANG+ANG+ING+ON+EN+AAN
   +hz+UEN+YIH*eoTUP+TUPNI+KOI+KOINI*cteh+br+bl+at+bm+bt+du+by+bp+cu@1E2FF*NGUNag
   @1E7E0&ETHIOPICjlHHYA+HHYU+HHYI+HHYAA+HHYEE+HHYE+HHYO@1E7E8+GURAGE HHWA+HHWI+HHWEE+HHWE
   @1E7ED+GURAGE MWI,MWEE@1E7F0,QWI,QWEE,QWE,BWI,BWEE,KWI,KWEE,KWE,GWI,GWEE,GWE,FWI,FWEE,PWI,PWEE
   @1E800&MENDE KIKAKUIjlM001 KI,M002 KA,M003 KU,M065 KEE,M095 KE,M076 KOO,M048 KO,M179 KUA
   ,M004 WI,M005 WA,M006 WU,M126 WEE,M118 WE,M114 WOO,M045 WO,M194 WUI,M143 WEI,M061 WVI,M049 WVA
   ,M139 WVE,M007 MIN,M008uu,M009 MUN,M059 MEN,M094 MON,M154 MUAN,M189 MUEN,M010 BI,M011 BA
   ,M012 BU,M150 BEE,M097 BE,M103 BOO,M138 BO,M013 I,M014 A,M015 U,M163 EE,M100 E,M165 OO,M147 O
   ,M137 EI,M131 IN,M135 IN,M195 AN,M178 EN,M019 SI,M020 SA,M021 SU,M162 SEE,M116 SE,M136 SOO
   ,M079 SO,M196 SIA,M025 LI,M026 LA,M027 LU,M084 LEE,M073 LE,M054 LOO,M153 LO,M110emLE,M016 DI
   ,M017 DA,M018 DU,M089 DEE,M180 DOO,M181 DO,M022 TI,M023 TA,M024 TU,M091 TEE,M055 TE,M104 TOO
   ,M069 TO,M028 JI,M029 JA,M030 JU,M157 JEE,M113 JE,M160 JOO,M063 JO,M175emJO,M031 YI,M032 YA
   ,M033 YU,M109 YEE,M080 YE,M141 YOO,M121 YO,M034 FI,M035 FA,M036 FU,M078 FEE,M075 FE,M133 FOO
   ,M088 FO,M197 FUA,M101 FAN,M037 NIN,M038 NAN,M039kk,M117 NEN,M169 NON,M176 HI,M041 HA,M186 HU
   ,M040 HEE,M096 HE,M042 HOO,M140 HO,M083 HEEI,M128 HOOU,M053 HIN,M130 HAN,M087 HUN,M052 HEN
   ,M193 HON,M046 HUAN,M090 NGGI,M043 NGGA,M082 NGGU,M115 NGGEE,M146 NGGE,M156 NGGOO,M120 NGGO
   ,M159 NGGAA,M127 NGGUA,M086emNGGE,M106emNGGOO,M183emNGGO,M155 GI,M111 GA,M168 GU,M190 GEE
   ,M166 GUEI,M167 GUAN,M184 NGEN,M057 NGON,M177 NGUAN,M068 PI,M099 PA,M050 PU,M081 PEE,M051 PE
   ,M102 POO,M066 PO,M145 MBI,M062 MBA,M122 MBU,M047 MBEE,M188 MBEE,M072 MBE,M172 MBOO,M174 MBO
   ,M187 MBUU,M161emMBE,M105emMBOO,M142emMBO,M132 KPI,M092 KPA,M074 KPU,M044 KPEE,M108 KPE
   ,M112 KPOO,M158 KPO,M124 GBI,M056 GBA,M148 GBU,M093 GBEE,M107 GBE,M071 GBOO,M070 GBO,M171 RA
   ,M123 NDI,M129 NDA,M125 NDU,M191 NDEE,M119 NDE,M067 NDOO,M064 NDO,M152 NJA,M192 NJU,M149 NJEE
   ,M134 NJOO,M182 VI,M185 VA,M151 VU,M173 VEE,M085 VE,M144 VOO,M077 VO,M164 NYIN,M058 NYAN
   ,M170 NYUN,M098 NYEN,M060 NYON@1E8C7+ctbr,bl,at,bm,bt,du,by,bp,cu+dvdoTEENS.TENS.HUNDREDS.pd
   .gwpd.bcpd.tu@1E900&ADLAMacaaALIF,DAALI,LAAM,MIIM,BA,SINNYIIYHE,PE,BHE,RA,E,FA,I,O,kj,YHE,ml,kk
   ,ox,YA,U,JIIM,ss,HA,QAAF,GA,hz,TU,NHA,VA,id,GBE,ZAL,KPO,hm*adaaALIF,DAALI,LAAM,MIIM,BA
   ,SINNYIIYHE,PE,BHE,RA,E,FA,I,O,kj,YHE,ml,kk,ox,YA,U,JIIM,ss,HA,QAAF,GA,hz,TU,NHA,VA,id,GBE,ZAL
   ,KPO,hm*ALIF LENGTHENER*ckLENGTHENER*vuba*hn*ghfj*GEMINATEghfj*kd*NASALIZATIONba@1E950*cteh+br
   +bl+at+bm+bt+du+by+bp+cu@1E95E*aseiba+fpba@1EC71&INDIC SIYAQdobr,bl,at,bm,bt,du,by,bp,cu,gw,fl
   ,jm,nk,ie,ny,fm,ne,ga,brbc,blbc,atbc,bmbc,btbc,dubc,bybc,bpbc,cubc,brbe,blbe,atbe,bmbe,btbe
   ,dube,bybe,bpbe,cube,gwbe,flbe,jmbe,nkbe,iebe,nybe,fmbe,nebe,gabe,LAKH,LAKHAN+LAKHba+doKAROR
   ,KARORAN,PREFIXEDbr.bl.at.bm.bt.du.by.bp.cu+PLACEHOLDER+ifbrfr.co,atjw+RUPEEba+dogjbr.bl.gwbe
   +gjLAKHba@1ED01&OTTOMAN SIYAQdobr,bl,at,bm,bt,du,by,bp,cu,gw,fl,jm,nk,ie,ny,fm,ne,ga,brbc,blbc
   ,atbc,bmbc,btbc,dubc,bybc,bpbc,cubc,brbe,blbe,atbe,bmbe,btbe,dube,bybe,bpbe,cube,gwbe,flbe,jmbe
   ,nkbe,iebe,nybe,fmbe,nebe,gabe+MARRATAN+gjdobl.at.bm.bt.du.by.bp.cu.gw.bmbc.dubc.blbe.gwbe
   +ifbrco.SIXTH@1EE00&kqpwdk+vk+ek+DAL@1EE05+ml+tv+ge+qf+ep+ox+mp+cg+jd+ly+nv+tk+tm+rd+ok+mq+vs
   +xl+hb+THAL+vt+ZAH+nw+lxvk,jd,tk,rd@1EE21+asvk,ek@1EE24,pf@1EE27,ge@1EE29,ep,ox,mp,cg,jd,ly,nv
   ,tk,tm,rd@1EE34,mq,vs,xl,hb@1EE39,vt@1EE3B,nw@1EE42+TAILEDek@1EE47,ge@1EE49,ep@1EE4B,mp
   @1EE4D,jd,ly,nv@1EE51,tm,rd@1EE54,mq@1EE57,hb@1EE59,vt@1EE5B,nw@1EE5D,lxjd@1EE5F.rd
   @1EE61+STRETCHEDvk,ek@1EE64,pf@1EE67,ge,qf,ep,ox@1EE6C,cg,jd,ly,nv,tk,tm,rd@1EE74,mq,vs,xl,hb
   @1EE79,vt,ZAH,nw,lxvk@1EE7E.tk@1EE80+LOOPEDdk,vk,ek,DAL,pf,ml,tv,ge,qf,ep@1EE8B,mp,cg,jd,ly,nv
   ,tk,tm,rd,ok,mq,vs,xl,hb,THAL,vt,ZAH,nw@1EEA1+iwvk,ek,DAL@1EEA5,ml,tv,ge,qf,ep@1EEAB,mp,cg,jd
   ,ly,nv,tk,tm,rd,ok,mq,vs,xl,hb,THAL,vt,ZAH,nw@1EEF0+dycgabgeabTATWEEL,geabDAL
   @1F000&MAHJONG TILEfyzr+gqzr+hczr+fvzr+REDwu+GREENwu+azwu+brOFmz+blOFmz+atOFmz+bmOFmz+btOFmz
   +duOFmz+byOFmz+bpOFmz+cuOFmz+brOFsr+blOFsr+atOFsr+bmOFsr+btOFsr+duOFsr+byOFsr+bpOFsr+cuOFsr
   +brOFmx+blOFmx+atOFmx+bmOFmx+btOFmx+duOFmx+byOFmx+bpOFmx+cuOFmx+PLUM+ORCHID+BAMBOO
   +CHRYSANTHEMUM+SPRING+SUMMER+AUTUMN+WINTER+JOKER+xu@1F030&DOMINO TILEayxu+HORIZONTAL-00-00
   +HORIZONTAL-00-01+HORIZONTAL-00-02+HORIZONTAL-00-03+HORIZONTAL-00-04+HORIZONTAL-00-05
   +HORIZONTAL-00-06+HORIZONTAL-01-00+HORIZONTAL-01-01+HORIZONTAL-01-02+HORIZONTAL-01-03
   +HORIZONTAL-01-04+HORIZONTAL-01-05+HORIZONTAL-01-06+HORIZONTAL-02-00+HORIZONTAL-02-01
   +HORIZONTAL-02-02+HORIZONTAL-02-03+HORIZONTAL-02-04+HORIZONTAL-02-05+HORIZONTAL-02-06
   +HORIZONTAL-03-00+HORIZONTAL-03-01+HORIZONTAL-03-02+HORIZONTAL-03-03+HORIZONTAL-03-04
   +HORIZONTAL-03-05+HORIZONTAL-03-06+HORIZONTAL-04-00+HORIZONTAL-04-01+HORIZONTAL-04-02
   +HORIZONTAL-04-03+HORIZONTAL-04-04+HORIZONTAL-04-05+HORIZONTAL-04-06+HORIZONTAL-05-00
   +HORIZONTAL-05-01+HORIZONTAL-05-02+HORIZONTAL-05-03+HORIZONTAL-05-04+HORIZONTAL-05-05
   +HORIZONTAL-05-06+HORIZONTAL-06-00+HORIZONTAL-06-01+HORIZONTAL-06-02+HORIZONTAL-06-03
   +HORIZONTAL-06-04+HORIZONTAL-06-05+HORIZONTAL-06-06+arxu+VERTICAL-00-00+VERTICAL-00-01
   +VERTICAL-00-02+VERTICAL-00-03+VERTICAL-00-04+VERTICAL-00-05+VERTICAL-00-06+VERTICAL-01-00
   +VERTICAL-01-01+VERTICAL-01-02+VERTICAL-01-03+VERTICAL-01-04+VERTICAL-01-05+VERTICAL-01-06
   +VERTICAL-02-00+VERTICAL-02-01+VERTICAL-02-02+VERTICAL-02-03+VERTICAL-02-04+VERTICAL-02-05
   +VERTICAL-02-06+VERTICAL-03-00+VERTICAL-03-01+VERTICAL-03-02+VERTICAL-03-03+VERTICAL-03-04
   +VERTICAL-03-05+VERTICAL-03-06+VERTICAL-04-00+VERTICAL-04-01+VERTICAL-04-02+VERTICAL-04-03
   +VERTICAL-04-04+VERTICAL-04-05+VERTICAL-04-06+VERTICAL-05-00+VERTICAL-05-01+VERTICAL-05-02
   +VERTICAL-05-03+VERTICAL-05-04+VERTICAL-05-05+VERTICAL-05-06+VERTICAL-06-00+VERTICAL-06-01
   +VERTICAL-06-02+VERTICAL-06-03+VERTICAL-06-04+VERTICAL-06-05+VERTICAL-06-06
   @1F0A0&PLAYING CARDxu+ACE OFnu+blOFnu+atOFnu+bmOFnu+btOFnu+duOFnu+byOFnu+bpOFnu+cuOFnu+gwOFnu
   +JACK OFnu+huOFnu+osOFnu+raOFnu@1F0B1+ACE OFlw+blOFlw+atOFlw+bmOFlw+btOFlw+duOFlw+byOFlw+bpOFlw
   +cuOFlw+gwOFlw+JACK OFlw+huOFlw+osOFlw+raOFlw+RED JOKER@1F0C1+ACE OFko+blOFko+atOFko+bmOFko
   +btOFko+duOFko+byOFko+bpOFko+cuOFko+gwOFko+JACK OFko+huOFko+osOFko+raOFko+axJOKER
   @1F0D1+ACE OFqy+blOFqy+atOFqy+bmOFqy+btOFqy+duOFqy+byOFqy+bpOFqy+cuOFqy+gwOFqy+JACK OFqy+huOFqy
   +osOFqy+raOFqy+azJOKER+FOOL+TRUMP-1+TRUMP-2+TRUMP-3+TRUMP-4+TRUMP-5+TRUMP-6+TRUMP-7+TRUMP-8
   +TRUMP-9+TRUMP-10+TRUMP-11+TRUMP-12+TRUMP-13+TRUMP-14+TRUMP-15+TRUMP-16+TRUMP-17+TRUMP-18
   +TRUMP-19+TRUMP-20+TRUMP-21@1F100&ctehhhez+en*bren*blen*aten*bmen*bten*duen*byen*bpen*cuen
   &DINGBATdnfncteh*jydnfncteh&dnehaboo*fhaf*yqagabOVERLAIDsi&wcfeacaaA.B.C.D.E.F.G.H.I.J.K.L.M.N
   .O.P.Q.R.S.T.U.V.W.X.Y.Z&iykmBRACKETEDfeacaaS&dnrgfeacaaC:R*CD*WZ&COPYLEFTav&fifeacaaA.B.C.D.E
   .F.G.H.I.J.K.L.M.N.O.P.Q.R.S.T.U.V.W.X.Y.Z*HV*MV*SD*SS*PPV*WC&jydnfeacaaA:B:C:D:E:F:G:H:I:J:K:L
   :M:N:O:P:Q:R:S:T:U:V:W:X:Y:Z&imMCag*MDag*MRag&dnCC*CabOVERLAIDsi*HUMAN FIGURE&jyfifeacaaA:B:C:D
   :E:F:G:H:I:J:K:L:M:N:O:P:Q:R:S:T:U:V:W:X:Y:Z&mvjyfifeacaaP&jyfiIC+PA+SA+AB+WC&bnDJ&fiCL*COOL
   *FREE*ID*NEW*NG*OK*SOS*UPabeiba*VS*atD*zwSCREEN*blK*bmK*bpK*btsdbr*bysdbr*TWENTY-TWOsdbl*nyP
   *brbcflP*feadaaD*HC*HDR*HI-RES*LOSSLESS*SHV*UHD*VOD&MASK WORKav@1F1E6&REGIONALpbavaaA.B.C.D.E.F
   .G.H.I.J.K.L.M.N.O.P.Q.R.S.T.U.V.W.X.Y.Z&bnwvHOKA&fingKOKO+SA@1F210*CJK UNIFIED IDEOGRAPH-624B
   ,IDEOGRAPH-5B57,IDEOGRAPH-53CC*ngDE*CJK UNIFIED IDEOGRAPH-4E8C,IDEOGRAPH-591A,IDEOGRAPH-89E3
   ,IDEOGRAPH-5929,IDEOGRAPH-4EA4,IDEOGRAPH-6620,IDEOGRAPH-7121,IDEOGRAPH-6599,IDEOGRAPH-524D
   ,IDEOGRAPH-5F8C,IDEOGRAPH-518D,IDEOGRAPH-65B0,IDEOGRAPH-521D,IDEOGRAPH-7D42,IDEOGRAPH-751F
   ,IDEOGRAPH-8CA9,IDEOGRAPH-58F0,IDEOGRAPH-5439,IDEOGRAPH-6F14,IDEOGRAPH-6295,IDEOGRAPH-6355
   ,IDEOGRAPH-4E00,IDEOGRAPH-4E09,IDEOGRAPH-904A,IDEOGRAPH-5DE6,IDEOGRAPH-4E2D,IDEOGRAPH-53F3
   ,IDEOGRAPH-6307,IDEOGRAPH-8D70,IDEOGRAPH-6253,IDEOGRAPH-7981,IDEOGRAPH-7A7A,IDEOGRAPH-5408
   ,IDEOGRAPH-6E80,IDEOGRAPH-6709,IDEOGRAPH-6708,IDEOGRAPH-7533,IDEOGRAPH-5272,IDEOGRAPH-55B6
   ,IDEOGRAPH-914D@1F240&iykmBRACKETED CJK UNIFIED IDEOGRAPH-672C:IDEOGRAPH-4E09:IDEOGRAPH-4E8C
   :IDEOGRAPH-5B89:IDEOGRAPH-70B9:IDEOGRAPH-6253:IDEOGRAPH-76D7:IDEOGRAPH-52DD:IDEOGRAPH-6557
   @1F250&dnIDEOGRAPH ADVANTAGE+ACCEPT@1F260&qgavmkFU,LU,SHOU,XI,SHUANGXI,CAI@1F300&CYCLONE&FOGGY
   &gmUMBRELLA&NIGHTabSTARS&SUNRISEdgMOUNTAINS*&CITYSCAPE AT DUSK&SUNSETdgBUILDINGS&RAINBOW
   &BRIDGE AT NIGHT&snof&VOLCANO&MILKY WAY&qvGLOBE EUROPE-AFRICA+AMERICAS+ASIA-AUSTRALIA
   &GLOBEabMERIDIANS&NEWmgav&WAXINGwrmgav&yefrmgav&WAXING GIBBOUSmgav&hhmgav&WANING GIBBOUSmgav
   &LASTfrmgav&WANINGwrmgav&wrmg&NEWmgabcx&yefrmgabcx&LASTfrmgabcx&hhmgabcx&SUNabcx&GLOWINGgk
   &SHOOTINGgk&THERMOMETER&axDROPLET&azSUN+abadCLOUD+BEHIND CLOUD.abRAIN&CLOUDabRAIN+SNOW
   +LIGHTNING+TORNADO&FOG&zrBLOWINGcx&HOT DOG&TACO&BURRITO&CHESTNUT&SEEDLING&EVERGREEN TREE
   &DECIDUOUS TREE&PALM TREE&CACTUS&HOT PEPPER&TULIP&CHERRY BLOSSOM&ROSE&HIBISCUS&SUNFLOWER
   &BLOSSOM&EAR OF MAIZE+RICE&HERB&bmogCLOVER&MAPLEog&FALLENog&ogFLUTTERING INzr&MUSHROOM&TOMATO
   &AUBERGINE&GRAPES&MELON&WATERMELON&TANGERINE&LEMON&BANANA&PINEAPPLE&RED APPLE&GREEN APPLE&PEAR
   &PEACH&CHERRIES&STRAWBERRY&HAMBURGER&SLICE OF PIZZA&MEAT ON BONE&POULTRYxv&RICE CRACKER*xs
   &COOKED RICE&CURRYapRICE&STEAMING BOWL&SPAGHETTI&BREAD&FRENCH FRIES&ROASTED SWEET POTATO&DANGO
   &ODEN&SUSHI&FRIED SHRIMP&FISH CAKEabSWIRL DESIGN&veICE CREAM&SHAVED ICE&ICE CREAM&DOUGHNUT
   &COOKIE&CHOCOLATEeb&CANDY&LOLLIPOP&CUSTARD&HONEY POT&SHORTCAKE&BENTOqu&POT OF FOOD&COOKING
   &FORKapKNIFE&TEACUP WITHOUT HANDLE&SAKE BOTTLEapCUP&WINE GLASS&COCKTAIL GLASS&TROPICAL DRINK
   &BEER MUG&CLINKING BEER MUGS&BABY BOTTLE&FORKapKNIFEabPLATE&BOTTLEabPOPPING CORK&POPCORN&RIBBON
   &WRAPPED PRESENT&BIRTHDAY CAKE&JACK-O-LANTERN&CHRISTMAS TREE&FATHER CHRISTMAS&FIREWORKS
   &FIREWORK SPARKLER&BALLOON&PARTY POPPER&CONFETTIxs&TANABATA TREE&mvFLAGS&PINE DECORATION
   &uhDOLLS&CARP STREAMER&zrCHIME&mgVIEWING CEREMONY&SCHOOL SATCHEL&GRADUATION CAP&jeabTIP ONmmao
   &BOUQUET OF FLOWERS&MILITARY MEDAL&REMINDER RIBBON&noKEYBOARDabJACKS&STUDIO MICROPHONE
   &LEVEL SLIDER&CONTROL KNOBS&BEAMED ASCENDINGnoNOTES*DESCENDINGnoNOTES&FILM FRAMES
   &ADMISSION TICKETS&CAROUSELyh&FERRIS WHEEL&ROLLER COASTER&FISHING POLEapFISH&MICROPHONE
   &MOVIE CAMERA&CINEMA&HEADPHONE&ARTIST PALETTE&lrHAT&CIRCUS TENT&TICKET&CLAPPER BOARD
   &PERFORMING ARTS&VIDEO GAME&DIRECT HIT&SLOT MACHINE&BILLIARDS&GAME DIE&BOWLING
   &FLOWER PLAYING CARDS&nooz&ljnoNOTES&SAXOPHONE&GUITAR&noKEYBOARD&TRUMPET&VIOLIN&noSCORE
   &RUNNING SHIRTabSASH&TENNIS RACQUETapxs&SKIapSKI BOOT&BASKETBALLapHOOP&CHEQUEREDxr&SNOWBOARDER
   &RUNNER&SURFER&SPORTS MEDAL&TROPHY&yhRACING&AMERICAN FOOTBALL&RUGBY FOOTBALL&SWIMMER
   &WEIGHT LIFTER&GOLFER&RACING MOTORCYCLE*CAR&CRICKET BATapxs&VOLLEYBALL&FIELD HOCKEY STICKapxs
   &ICE HOCKEY STICKapPUCK&TABLE TENNIS PADDLEapxs&SNOW CAPPEDrw&CAMPING&BEACHabUMBRELLA
   &BUILDING CONSTRUCTION&HOUSE BUILDINGS&CITYSCAPE&DERELICT HOUSE BUILDING&CLASSICAL BUILDING
   &DESERT*ISLAND&NATIONAL PARK&STADIUM&HOUSE BUILDING*abGARDEN&OFFICE BUILDING&uhPOST OFFICE
   &EUROPEAN POST OFFICE&HOSPITAL&BANK&AUTOMATED TELLER MACHINE&HOTEL&LOVE HOTEL&CONVENIENCE STORE
   &SCHOOL&DEPARTMENT STORE&FACTORY&IZAKAYA LANTERN&uhCASTLE&EUROPEAN CASTLE&azPENNANT&axPENNANT
   &WAVINGazxr*axxr&ROSETTE&axROSETTE&LABEL&BADMINTON RACQUETapSHUTTLECOCK&BOWapaf&AMPHORA
   &EMOJIfjFITZPATRICK TYPE-1-2,TYPE-3,TYPE-4,TYPE-5,TYPE-6&RAT&MOUSE&OX&snBUFFALO&COW&TIGER
   &LEOPARD&RABBIT&CAT&wu&CROCODILE&WHALE&SNAIL&SNAKE&yh&RAM&GOAT&SHEEP&MONKEY&ROOSTER&CHICKEN&DOG
   &PIG&BOAR&ELEPHANT&OCTOPUS&SPIRALkm&BUG&ANT&HONEYBEE&LADY BEETLE&FISH&TROPICAL FISH&BLOWFISH
   &TURTLE&HATCHING CHICK&BABY CHICK&FRONT-FACING BABY CHICK&BIRD&PENGUIN&KOALA&POODLE
   &DROMEDARY CAMEL&BACTRIAN CAMEL&DOLPHIN&MOUSEcx&COWcx&TIGERcx&RABBITcx&CATcx&wucx
   &SPOUTING WHALE&yhcx&MONKEYcx&DOGcx&PIGcx&FROGcx&HAMSTERcx&WOLFcx&BEARcx&PANDAcx&PIG NOSE
   &PAW PRINTS&CHIPMUNK&ov&EYE&EAR&NOSE&lv&zy&azUPcdsbcm*cpcdsbcm*aocdsbcm*ahcdsbcm&FISTEDkvag
   &WAVINGkvag&OKkvag&THUMBS UPag*cpag&CLAPPINGyiag&ejyiag&CROWN&WOMANS HAT&EYEGLASSES&NECKTIE
   &T-SHIRT&JEANS&DRESS&KIMONO&BIKINI&WOMANS CLOTHES&PURSE&HANDBAG&POUCH&MANS SHOE&ATHLETIC SHOE
   &HIGH-HEELED SHOE&WOMANS SANDAL*BOOTS&FOOTPRINTS&BUST IN SILHOUETTE&BUSTS IN SILHOUETTE&BOY
   &GIRL&uu&WOMAN&FAMILY&uuapWOMAN HOLDINGyi&blMEN HOLDINGyi*WOMEN HOLDINGyi&POLICE OFFICER
   &WOMANabBUNNY EARS&BRIDEabVEIL&mhabBLOND HAIR&uuabGUA PI MAO+TURBAN&OLDERuu*WOMAN&BABY
   &CONSTRUCTION WORKER&PRINCESS&uhOGRE*GOBLIN&GHOST&BABY ANGEL&EXTRATERRESTRIAL ALIEN
   &ALIEN MONSTER&IMP&SKULL&INFORMATION DESKmh&GUARDSMAN&DANCER&LIPSTICK&NAIL POLISH&cxMASSAGE
   &HAIRCUT&BARBER POLE&SYRINGE&PILL&KISSba&LOVEaa&dx&GEM STONE&KISS&BOUQUET&COUPLEabje&WEDDING
   &BEATINGje&BROKENje&bllw&SPARKLINGje&GROWINGje&jeabaf&BLUEje&GREENje&YELLOWje&PURPLEje
   &jeabRIBBON&REVOLVINGlw&jeDECORATION&eqSHAPEabAbvkr&ELECTRICclBULB&ANGERav&BOMB&SLEEPINGav
   &COLLISIONav&SPLASHING SWEATav&DROPLET&ivav&PILE OF POO&FLEXED BICEPS&DIZZYav&zxBALLOON
   &THOUGHT BALLOON&azFLOWER&bcPOINTSav&MONEY BAG&CURRENCY EXCHANGE&bhyqag&CREDIT CARD
   &BANKNOTEabYENag+yqag+EUROag+POUNDag&MONEYabWINGS&CHARTabbxTRENDapYENag&SEAT&PERSONAL COMPUTER
   &BRIEFCASE&MINIDISC&FLOPPY DISK&OPTICAL DISC&DVD&FILE FOLDER&ejFILE FOLDER&PAGEaboe*FACING UP
   &CALENDAR&TEAR-OFF CALENDAR&CARDcm&CHARTabbxTREND+bdTREND&ebCHART&CLIPBOARD&PUSHPIN&tjPUSHPIN
   &PAPERCLIP&gyRULER&fuRULER&BOOKMARK TABS&LEDGER&NOTEBOOK*abDECORATIVE COVER&gmBOOK&ejBOOK
   &GREEN BOOK&BLUE BOOK&ORANGE BOOK&BOOKS&NAME BADGE&SCROLL&MEMO&lbRECEIVER&PAGER&FAX MACHINE
   &SATELLITE ANTENNA&PUBLIC ADDRESS LOUDSPEAKER&CHEERING MEGAPHONE&OUTBOX TRAY&INBOX TRAY&PACKAGE
   &E-MAILav&INCOMINGpo&poabbdafai&gmMAILBOXabLOWEREDxr,imxr&ejMAILBOXabimxr,LOWEREDxr&POSTBOX
   &POSTALjs&NEWSPAPER&MOBILE PHONE+abakafATao&VIBRATION MODE&MOBILE PHONE OFF&NO MOBILE PHONES
   &ANTENNAabBARS&CAMERA*abFLASH&VIDEO CAMERA&TELEVISION&RADIO&VIDEOCASSETTE&FILM PROJECTOR
   &PORTABLE STEREO&PRAYER BEADS&TWISTEDakmf&kfakapaqejbumf<abdnbrhv*bdapbxejbumf&fhbdapbxejbumf
   &ftBRIGHTNESSav&evBRIGHTNESSav&SPEAKERabxmau**abbrnzof+atnzWAVES&BATTERY&ELECTRIC PLUG
   &euMAGNIFYING GLASS&eaMAGNIFYING GLASS&LOCKabINK PEN&gmLOCKabKEY&KEY&LOCK&ejLOCK&BELL*abxmau
   &BOOKMARK&LINKav&RADIO BUTTON&xuabaqafai&owabaqafai&ONabeibaabaoahafai&SOONabakafai&lrabbxafai
   &NObrygpmav&KEYCAPgw&INPUTavmkfeacLETTERS.adLETTERS,NUMBERS,SYMBOLS,feLETTERS&zq&ELECTRIC TORCH
   &WRENCH&HAMMER&NUTapBOLT&HOCHO&PISTOL&MICROSCOPE&TELESCOPE&CRYSTALxs&dufggkabbbbv
   &uhavmkBEGINNER&TRIDENT EMBLEM&axbnBUTTON&azbnBUTTON&eeREDbu*BLUEbu*ORANGEeq*BLUEeq&adORANGEeq
   *BLUEeq&ibREDbi&hxREDbi&ibadREDbi&hxadREDbi&cvahlnazbu&dhahlnazbu&dngdPOMMEE
   &gdPOMMEEabHALF-CIRCLEam+&soaovzabatdb*ahvzabatdb&avmkMARKS CHAPTER&azfegd&bhfegd&CELTICgd&OMav
   &DOVE OF PEACE&KAABA&MOSQUE&SYNAGOGUE&MENORAHabcuBRANCHES&BOWL OF HYGIEIA&CLOCKcxbrqc+blqc+atqc
   +bmqc+btqc+duqc+byqc+bpqc+cuqc+gwqc+pxqc+ntqc+ONE-THIRTY+TWO-THIRTY+THREE-THIRTY+FOUR-THIRTY
   +FIVE-THIRTY+SIX-THIRTY+SEVEN-THIRTY+EIGHT-THIRTY+NINE-THIRTY+TEN-THIRTY+ELEVEN-THIRTY
   +TWELVE-THIRTY&ahSPEAKER+abbrnzof,atnzWAVES&BULLHORN*abnzWAVES&RINGING BELL&BOOK&CANDLE
   &MANTELPIECE CLOCK&axSKULLapCROSSBONES&NO PIRACY&HOLE&uuIN BUSINESS SUIT LEVITATING
   &SLEUTH OR SPY&DARK SUNGLASSES&SPIDER*WEB&JOYSTICK&uuDANCING&aokvlbRECEIVER&lbRECEIVERabPAGE
   &ahkvlbRECEIVER&azTOUCHTONElb&axTOUCHTONElb&lbONlrOF MODEM&CLAMSHELL MOBILE PHONE&xuOFpo
   &STAMPEDpo&poabLIGHTNING&FLYINGpo&PENdgSTAMPEDpo&LINKED PAPERCLIPS&axPUSHPIN&cvaoPENCIL
   +BALLPOINT PEN+FOUNTAIN PEN+PAINTBRUSH+CRAYON&aoWRITINGkv&crOKkvag&imkvabhsSPLAYED
   &bzimkvabhsSPLAYED*THUMBS UPag+cpag*VICTORYkv*kvabbbxcrn&imkvabPARTkgbbapdxhs&azcpcdaokvcm
   &phazaocdcm+ahcdcm*axaocdcm+ahcdcm&axaocdsbcm*ahcdsbcm&phazUPcdcm+cpcdcm*axUPcdcm+cpcdcm
   &axUPcdsbcm*cpcdsbcm*je&DESKTOP COMPUTER&KEYBOARDapMOUSE&atNETWORKED COMPUTERS&PRINTER
   &POCKET CALCULATOR&axHARDkmFLOPPY DISK&azHARDkmFLOPPY DISK&vekmFLOPPY DISK&TAPE CARTRIDGE
   &WIRED KEYBOARD&brBUTTON MOUSE&blBUTTON MOUSE&atBUTTON MOUSE&TRACKBALL&jiPERSONAL COMPUTER
   &HARD DISK&SCREEN&PRINTER ICON&FAX ICON&OPTICAL DISC ICON&DOCUMENTabTEXT,apPICTURE+PICTURE
   &FRAMEabPICTURE+TILES+AN X&axFOLDER&FOLDER&ejFOLDER&CARDcmDIVIDERS*FILEqu&FILE CABINET&EMPTYoz
   +PAGE+PAD&oz*PAGE*PAD&EMPTY DOCUMENT*PAGE*PAGES&DOCUMENT&PAGE&PAGES&WASTEBASKET&SPIRALozPAD
   *CALENDAR PAD&DESKTOP WINDOW&MINIMIZE&MAXIMIZE&OVERLAP&kfahapaovzmf&xmX&INCREASE FONT SIZEav
   &DECREASE FONT SIZEav&COMPRESSION&jiKEY&ROLLED-UP NEWSPAPER&PAGEabdnTEXT&STOCK CHART
   &DAGGER KNIFE&LIPS&SPEAKINGqhIN SILHOUETTE&atRAYSai+am+ao+ah&aozxvc&ahzxvc&blzxBUBBLES
   &atzxBUBBLES&aoTHOUGHTvc&ahTHOUGHTvc&aoANGERvc&ahANGERvc&MOODvc&LIGHTNING MOODvc+&zpquabzp*jcX
   *quabjcX*lpjcX*quablpjcX&cltpba&zpquablptp&WORLD MAP&MOUNT FUJI&TOKYO TOWER&STATUE OF LIBERTY
   &SILHOUETTE OF JAPAN&MOYAI&GRINNINGcx+abkhov&cxabTEARS OF JOY&khcxabejlv:apkhov;COLD SWEAT
   ;TIGHTLY-CLOSEDov,HALO,HORNS&WINKINGcx&khcxabkhov&cxSAVOURING DELICIOUS FOOD&RELIEVEDcx
   &khcxabHEART-SHAPEDov,SUNGLASSES&SMIRKINGcx&ikcx&EXPRESSIONLESScx&UNAMUSEDcx&cxabCOLD SWEAT
   &PENSIVEcx&CONFUSEDcx&CONFOUNDEDcx&KISSINGcx&cxTHROWING A KISS&KISSINGcxabkhov,gmov
   &cxabSTUCK-OUTzy.apWINKING EYE:TIGHTLY-CLOSEDov&DISAPPOINTEDcx&WORRIEDcx&ANGRYcx&POUTINGcx
   &CRYINGcx&PERSEVERINGcx&cxabLOOK OF TRIUMPH&DISAPPOINTED BUT RELIEVEDcx&FROWNINGcxabejlv
   &ANGUISHEDcx&FEARFULcx&WEARYcx&SLEEPYcx&TIREDcx&GRIMACINGcx&LOUDLY CRYINGcx&cxabejlv&HUSHEDcx
   &cxabejlvapCOLD SWEAT*SCREAMING IN FEAR&ASTONISHEDcx&FLUSHEDcx&SLEEPINGcx&DIZZYcx&cxWITHOUTlv
   *abMEDICAL MASK&GRINNING CATcxabkhov&CATcxabTEARS OF JOY&khCATcxabejlv.HEART-SHAPEDov
   &CATcxabWRY SMILE&KISSING CATcxabgmov&POUTING CATcx&CRYING CATcx&WEARY CATcx
   &SLIGHTLY FROWNINGcx*khcx&UPSIDE-DOWNcx&cxabROLLINGov+NO GOOD GESTURE+OK GESTURE
   &mhBOWING DEEPLY&SEE-NO-EVIL MONKEY&HEAR-NO-EVIL MONKEY&SPEAK-NO-EVIL MONKEY&HAPPYmhRAISINGbrkv
   &mhRAISING BOTHyiIN CELEBRATION*FROWNING*abPOUTINGcx+FOLDEDyi&fvhccdog&gqhccdog&fvfycdog
   &gqfycdog&crfvhccdog*gqhccdog*fvfycdog*gqfycdog&fvhccdVINEog&gqhccdVINEog&fvfycdVINEog
   &gqfycdVINEog&bhfvhccdVINEog*gqhccdVINEog*fvfycdVINEog*gqfycdVINEog&fvhccdBUD&gqhccdBUD
   &fvfycdBUD&gqfycdBUD&bhfvhccdBUD*gqhccdBUD*fvfycdBUD*gqfycdBUD&HOLLOW QUILTbnda.INaxbn
   &SOLID QUILTbnda.INaxbn&aqROCKET&bxROCKET&akROCKET&bdROCKET&jcexETda&bhjcexETda&exejETda
   &bhexejETda*pada&SWASHpada&fnbhalcrenerbada,enerbada+ftalenerbada&bhuzda&fnuzda&bhfnuzda&ltbhhq
   +irhq&CHECKER BOARD&irCHECKER BOARD&ROCKET&HELICOPTER&STEAM LOCOMOTIVE&RAILWAY CAR
   &HIGH-SPEED TRAIN+abnsNOSE&TRAIN&METRO&clRAIL&STATION&TRAM*CAR&BUS&ONCOMING BUS&TROLLEYBUS
   &BUSez&MINIBUS&AMBULANCE&zqENGINE&POLICE CAR&ONCOMING POLICE CAR&TAXI&ONCOMING TAXI&AUTOMOBILE
   &ONCOMING AUTOMOBILE&RECREATIONAL VEHICLE&DELIVERY TRUCK&ARTICULATED LORRY&TRACTOR&MONORAIL
   &rwRAILWAY&SUSPENSION RAILWAY&rwCABLEWAY&AERIAL TRAMWAY&SHIP&ROWBOAT&SPEEDBOAT&ayTRAFFICcl
   &arTRAFFICcl&CONSTRUCTIONag&POLICE CARS REVOLVINGcl&fuxrON POST&DOOR&NO ENTRYag&SMOKINGav
   &NO SMOKINGav&PUT LITTER IN ITS PLACEav&DOizLITTERav&POTABLEsnav&NON-POTABLEsnav&BICYCLE
   &NO BICYCLES&BICYCLIST&rwBICYCLIST&PEDESTRIAN&NO PEDESTRIANS&CHILDRENfc&MENSav&WOMENSav
   &RESTROOM&BABYav&TOILET&snCLOSET&SHOWER&BATH&BATHTUB&PASSPORT CONTROL&CUSTOMS&BAGGAGE CLAIM
   &aoLUGGAGE&biabqgzo&PROHIBITEDag&dnINFORMATION SOURCE&BOYSav&GIRLSav&COUCHapLAMP
   &SLEEPING ACCOMMODATION&SHOPPING BAGS&BELLHOP BELL&BED&PLACE OF WORSHIP&OCTAGONALag
   &SHOPPING TROLLEY&STUPA&PAGODA&HINDU TEMPLE&HUT&ELEVATOR@1F6DD&PLAYGROUND SLIDE&WHEEL&dxBUOY
   &HAMMERapWRENCH&SHIELD&OIL DRUM&MOTORWAY&RAILWAY TRACK&MOTOR BOAT&ibMILITARYui*ui*adui&adui
   &NORTHEAST-POINTINGui&uiDEPARTURE*ARRIVING@1F6F0&SATELLITE&ONCOMINGzqENGINE&DIESEL LOCOMOTIVE
   &PASSENGER SHIP&SCOOTER&MOTOR SCOOTER&CANOE&SLED&FLYING SAUCER&SKATEBOARD&AUTO RICKSHAW
   &PICKUP TRUCK&ROLLER SKATE@1F700&ALCHEMICALavmkQUINTESSENCE,AIR,zq,qv,sn,AQUAFORTIS,AQUA REGIA
   .REGIA-2.VITAE.VITAE-2,VINEGAR,VINEGAR-2,VINEGAR-3,SULFUR,PHILOSOPHERS SULFUR,axSULFUR
   ,MERCURYyp.SUBLIMATE-2.SUBLIMATE-3,CINNABAR,SALT,NITRE,VITRIOL,VITRIOL-2,ROCK SALT.SALT-2,GOLD
   ,SILVER,IRON ORE.ORE-2,CROCUS OF IRON,REGULUS OF IRON,COPPER ORE,IRON-COPPER ORE,ypOF COPPER
   ,CROCUS OF COPPER:COPPER-2,COPPER ANTIMONIATE,SALT OF COPPER ANTIMONIATE,ypOF SALT OF COPPER
   ,VERDIGRIS,TIN ORE,LEAD ORE,xdORE,ypOFxd,SALT OFxd,ypOF SALT OFxd,VINEGAR OFxd,REGULUS OFxd
   :ANTIMONY-2.,REGULUS-2,REGULUS-3,REGULUS-4,ALKALI,ALKALI-2,MARCASITE,SAL-AMMONIAC,ARSENIC
   ,REALGAR,REALGAR-2,AURIPIGMENT,BISMUTH ORE,TARTAR,TARTAR-2,QUICK LIME,BORAX,BORAX-2,BORAX-3
   ,ALUM,OIL,SPIRIT,TINCTURE,GUM,WAX,POWDER,CALX,TUTTY,CAPUT MORTUUM,SCEPTER OF JOVE,CADUCEUS
   ,TRIDENT,STARRED TRIDENT,LODESTONE,SOAP,URINE,yhDUNG,ASHES,POT ASHES,BRICK,POWDERED BRICK
   ,AMALGAM,STRATUM SUPER STRATUM:STRATUM-2,SUBLIMATION,PRECIPITATE,DISTILL,DISSOLVE,DISSOLVE-2
   ,PURIFY,PUTREFACTION,CRUCIBLE,CRUCIBLE-2,CRUCIBLE-3,CRUCIBLE-4,CRUCIBLE-5,ALEMBIC,BATH OF MARY
   :VAPOURS,RETORT,HOUR,NIGHT,DAY-NIGHT,MONTH,coDRAM.OUNCE@1F780&axeuISOSCELESahbi*ibISOSCELESahbi
   *eaISOSCELESahbi*hxISOSCELESahbi*SLIGHTLYadbu&cblpazbu&lpazbu&bhazbu&ltbhazbu&vdbhazbu
   &azbuqnaxadbu&tjTARGET&axTINYbn*SLIGHTLYadbn&clazbn&cbazbn&lpazbn&bhazbn&ltbhazbn&vdbhazbn
   &azbnqnaxltadbn.cbbn&bnTARGET&axTINYeq*ltadeq*cbadeq&azeqqnaxltadeq.cbeq&eqTARGET&axTINYmu
   *ltadmu*cbadmu&azmuqnaxadmu&THINkagd&clkagd&cbkagd&lpkagd&ltlpkagd*bhkagd&vdbhkagd&THINor&clor
   &cbor&lpor&bhor&ltbhor&vdbhor&clbtlfdp&cbbtlfdp&lpbtlfdp&bhbtlfdp&ltbhbtlfdp&vdbhbtlfdp
   &cldulfdp&cbdulfdp&lpdulfdp&bhdulfdp&ltbhdulfdp&vdbhdulfdp&clbplfdp&cbbplfdp&lpbplfdp&bhbplfdp
   &ltbhbplfdp&clatfgaxgk&cbatfgaxgk&atfgaxgk&cbatfgppgk&clbmfgaxgk&cbbmfgaxgk&bmfgaxgk&cbbmfgppgk
   &irclbmfgppgk&clbtfgaxgk&bhbtfgaxgk&cbdufgaxgk&bhdufgaxgk&dufgppgk&cbbpfgaxgk&bhbpfgaxgk
   &ltbhbpfgaxgk&bhbpfgppgk&clntfgaxgk&bhntfgaxgk,ppgk&dnbi&jydnbi&dnbn&jydnbn@1F7E0&eeORANGEbu
   *YELLOWbu*GREENbu*PURPLEbu*BROWNbu*REDbn*BLUEbn*ORANGEbn*YELLOWbn*GREENbn*PURPLEbn*BROWNbn
   @1F7F0&bhglag@1F800&aqafabadbibw&bxafabadbibw&akafabadbibw&bdafabadbibw&aqafabcbbibw
   &bxafabcbbibw&akafabcbbibw&bdafabcbbibw&aqafabeebibw&bxafabeebibw&akafabeebibw&bdafabeebibw
   @1F810&aqafabadetbw&bxafabadetbw&akafabadetbw&bdafabadetbw&aqafabetbw&bxafabetbw&akafabetbw
   &bdafabetbw&bhaqafabetbw*bxafabetbw*akafabetbw*bdafabetbw*aqafabeeetbw*bxafabeeetbw
   *akafabeeetbw*bdafabeeetbw&aqawafabNARROWlq&bxawafabNARROWlq&akawafabNARROWlq&bdawafabNARROWlq
   &aqawafabcblq&bxawafabcblq&akawafabcblq&bdawafabcblq&aqawafablplq&bxawafablplq&akawafablplq
   &bdawafablplq&aqawafabbhlq&bxawafabbhlq&akawafabbhlq&bdawafabbhlq&aqawafabltbhlq&bxawafabltbhlq
   &akawafabltbhlq&bdawafabltbhlq&aqFINGER-POSTaf&bxFINGER-POSTaf&akFINGER-POSTaf&bdFINGER-POSTaf
   &aqfiaf&bxfiaf&akfiaf&bdfiaf&aqojaf&bxojaf&akojaf&bdojaf&aqbhojaf&bxbhojaf&akbhojaf&bdbhojaf
   &aqbhaf&bxbhaf&akbhaf&bdbhaf@1F850&aqfnaf&bxfnaf&akfnaf&bdfnaf&fvhcfnaf*fyfnaf&gqfyfnaf*hcfnaf
   &aoahfnaf&UPcpfnaf@1F860&WIDE-HEADEDaqclecaf*bxclecaf*akclecaf*bdclecaf*fvhcclecaf+fyclecaf
   *gqfyclecaf+hcclecaf*aqecaf*bxecaf*akecaf*bdecaf*fvhcecaf+fyecaf*gqfyecaf+hcecaf*aqcbecaf
   *bxcbecaf*akcbecaf*bdcbecaf*fvhccbecaf+fycbecaf*gqfycbecaf+hccbecaf*aqbhecaf*bxbhecaf*akbhecaf
   *bdbhecaf*fvhcbhecaf+fybhecaf*gqfybhecaf+hcbhecaf*aqltbhecaf*bxltbhecaf*akltbhecaf*bdltbhecaf
   *fvhcltbhecaf+fyltbhecaf*gqfyltbhecaf+hcltbhecaf@1F890&aqbibw&bxbibw&akbibw&bdbibw&aqazafzabibw
   &bxazafzabibw&akazafzabibw&bdazafzabibw&aqafabsogt&bxafabsogt&akafabsogt&bdafabsogt
   &bhaflqWIDTHbr.blva.brco:sj&aqBOTTOM-SHADEDazaf&akheSHADEDazaf&aqlrSHADEDazaf&aklrSHADEDazaf
   &aqLEFT-SHADEDazaf&akRIGHT-SHADEDazaf&aqRIGHT-SHADEDazaf&akLEFT-SHADEDazaf&aqBACK-TILTEDlnazaf
   &akBACK-TILTEDlnazaf&aqFRONT-TILTEDlnazaf&akFRONT-TILTEDlnazaf&azaflqWIDTHbr.blva
   @1F8B0&afcdbxTHENfvhc+akTHEN CURVINGgqhc@1F900&dngdFORMEEabbmdb.bldb,&aocobuabbmdb.atdb.bldb.bv
   ,&DOWNWARD FACINGbo+sobo+boabbv+soboabbv&PINCHEDhs&azje&BROWNje&PINCHINGkv&ZIPPER-MOUTHcx
   &MONEY-MOUTHcx&cxabTHERMOMETER&NERDcx&THINKINGcx&cxabHEAD-BANDAGE&ROBOTcx&HUGGINGcx&agOFmmHORNS
   &CALL MEkv&imxuOFkv&yxFIST&xjFIST&HANDSHAKE&kvabcmapbbhsmv&I LOVE YOUkvag&cxabCOWBOY HAT
   &CLOWNcx&NAUSEATEDcx&ROLLING ONmmwbLAUGHING&DROOLINGcx&LYINGcx&cxPALM&SNEEZINGcx
   &cxabbrEYEBROWim&GRINNINGcxabgkov,breeapbradEYE&cxabxcCOVERINGgmLIPS
   &SERIOUScxabSYMBOLS COVERINGlv&khcxabkhovapkvCOVERINGlv&cxabejlvVOMITING&SHOCKEDcxabEXPLODINGqh
   &PREGNANT WOMAN&BREAST-FEEDING&PALMS UP TOGETHER&SELFIE&PRINCE&uuIN TUXEDO&MOTHER CHRISTMAS
   &SHRUG&mhDOING CARTWHEEL&JUGGLING&FENCER&MODERN PENTATHLON&WRESTLERS&snPOLO&HANDBALL
   &DIVING MASK&WILTED FLOWER&DRUMabDRUMSTICKS&CLINKING GLASSES&TUMBLER GLASS&SPOON&GOAL NET&RIFLE
   &yePLACE MEDAL&zwPLACE MEDAL&sjPLACE MEDAL&BOXING GLOVE&MARTIAL ARTS UNIFORM&CURLING STONE
   &LACROSSE STICKapxs&SOFTBALL&FLYING DISC&CROISSANT&AVOCADO&CUCUMBER&BACON&POTATO&CARROT
   &BAGUETTE BREAD&GREEN SALAD&SHALLOW PAN OF FOOD&STUFFED FLATBREAD&EGG&GLASS OF MILK&PEANUTS
   &KIWIFRUIT&PANCAKES&DUMPLING&FORTUNE COOKIE&TAKEOUTqu&CHOPSTICKS&BOWLabSPOON&CUPabSTRAW&COCONUT
   &BROCCOLI&PIE&PRETZEL&CUT OF MEAT&SANDWICH&CANNED FOOD&LEAFY GREEN&MANGO&mgCAKE&BAGEL
   &khcxabkhovapatlw&YAWNINGcx&khcxabTEAR&cxabPARTYjsapPARTY HAT+UNEVENovapWAVYlv&OVERHEATEDcx
   &FREEZINGcx&NINJA&DISGUISEDcx&cxHOLDINGxuTEARS*abPLEADINGov&SARI&LAB COAT&GOGGLES&HIKING BOOT
   &FLAT SHOE&CRAB&LIONcx&SCORPION&TURKEY&UNICORNcx&EAGLE&DUCK&BAT&SHARK&OWL&FOXcx&BUTTERFLY&DEER
   &GORILLA&LIZARD&RHINOCEROS&SHRIMP&SQUID&GIRAFFEcx&ZEBRAcx&HEDGEHOG&SAUROPOD&T-REX&CRICKET
   &KANGAROO&LLAMA&PEACOCK&HIPPOPOTAMUS&PARROT&RACCOON&LOBSTER&MOSQUITO&MICROBE&BADGER&SWAN
   &MAMMOTH&DODO&SLOTH&OTTER&ORANGUTAN&SKUNK&FLAMINGO&OYSTER&BEAVER&BISON&SEAL&GUIDE DOG
   &PROBING CANE&EMOJI COMPONENT RED HAIR+jqHAIR+BALD+azHAIR&BONE&xv&FOOT&TOOTH&SUPERHERO
   &SUPERVILLAIN&SAFETY VEST&EARabHEARING AID&MOTORIZED WHEELCHAIR&MANUAL WHEELCHAIR
   &MECHANICAL ARM*xv&CHEESE WEDGE&CUPCAKE&SALT SHAKER&BEVERAGEqu&GARLIC&ONION&FALAFEL&WAFFLE
   &BUTTER&MATE DRINK&ICE CUBE&vcTEA&TROLL&STANDINGmh&KNEELINGmh&DEAFmh&cxabMONOCLE&ADULT&CHILD
   &OLDER ADULT&BEARDEDmh&mhabHEADSCARF*IN STEAMY ROOM*CLIMBING*IN LOTUS POSITION&MAGE&FAIRY
   &VAMPIRE&MERPERSON&ELF&GENIE&ZOMBIE&BRAIN&ORANGEje&BILLED CAP&SCARF&GLOVES&COAT&SOCKS
   &RED GIFTpo&FIRECRACKER&JIGSAW PUZZLE PIECE&TEST TUBE&PETRInp&DNAalHELIX&COMPASS&ABACUS
   &zqEXTINGUISHER&TOOLBOX&BRICK&MAGNET&LUGGAGE&LOTION BOTTLE&SPOOL OF THREAD&xsOF YARN&SAFETY PIN
   &TEDDY BEAR&BROOM&BASKET&ROLL OF PAPER&ebOF SOAP&SPONGE&RECEIPT&NAZAR AMULET&ikiora+os+xp+pz+hu
   +xq&aziohuczFORTY-FIVEdr&axiohuczFORTY-FIVEdr&ikiohuczFORTY-FIVEdr&azioraczgadr+osczgadr
   +xpczgadr+pzczgadr+huczgadr+xqczgadr&axioraczgadr+osczgadr+xpczgadr+pzczgadr+huczgadr+xqczgadr
   &ikioraczgadr+osczgadr+xpczgadr+pzczgadr+huczgadr+xqczgadr&aziohuczbrbcTHIRTY-FIVEdr
   &axiohuczbrbcTHIRTY-FIVEdr&ikiohuczbrbcTHIRTY-FIVEdr&aziocrra,os,xp,pz,hu,xq&axiocrra,os,xp,pz
   ,hu,xq&ikiocrra,os,xp,pz,hu,xq&aziohuczblbczzdr&axiohuczblbczzdr&ikiohuczblbczzdr
   &azioraczblbcfmdr+osczblbcfmdr+xpczblbcfmdr+pzczblbcfmdr+huczblbcfmdr+xqczblbcfmdr
   &axioraczblbcfmdr+osczblbcfmdr+xpczblbcfmdr+pzczblbcfmdr+huczblbcfmdr+xqczblbcfmdr
   &ikioraczblbcfmdr+osczblbcfmdr+xpczblbcfmdr+pzczblbcfmdr+huczblbcfmdr+xqczblbcfmdr
   &aziohuczatbcoqdr&axiohuczatbcoqdr&ikiohuczatbcoqdr&azioth&axioth&ikioth&aziothczgadr
   &axiothczgadr&ikiothczgadr&azioKNIGHT-QUEEN+KNIGHT-ROOK+KNIGHT-BISHOP&axioKNIGHT-QUEEN
   +KNIGHT-ROOK+KNIGHT-BISHOP@1FA60&XIANGQI RED GENERAL+MANDARIN+ELEPHANT+yh+CHARIOT+CANNON
   +SOLDIER*axGENERAL+MANDARIN+ELEPHANT+yh+CHARIOT+CANNON+SOLDIER@1FA70&BALLET SHOES
   &ONE-PIECE SWIMSUIT&BRIEFS&SHORTS&THONG SANDAL@1FA78&DROP OF BLOOD&ADHESIVE BANDAGE&STETHOSCOPE
   &X-RAY&CRUTCH@1FA80&YO-YO&KITE&PARACHUTE&BOOMERANG&MAGIC WAND&PINATA&NESTING DOLLS
   @1FA90&RINGED PLANET&CHAIR&RAZOR&AXE&DIYA LAMP&BANJO&MILITARY HELMET&ACCORDION&emDRUM&COIN
   &CARPENTRY SAW&SCREWDRIVER&LADDER&bo&MIRROR&WINDOW&PLUNGER&SEWING NEEDLE&KNOT&BUCKET&MOUSE TRAP
   &TOOTHBRUSH&HEADSTONE&PLACARD&ROCK&MIRRORxs&IDENTIFICATION CARD&ftBATTERY&HAMSA@1FAB0&FLY&WORM
   &BEETLE&COCKROACH&POTTED PLANT&WOOD&FEATHER&LOTUS&CORAL&EMPTY NEST&NESTabEGGS
   @1FAC0&ANATOMICALje&LUNGS&PEOPLE HUGGING&PREGNANTuu*mh&mhabCROWN@1FAD0&BLUEBERRIES&BELL PEPPER
   &OLIVE&FLATBREAD&TAMALE&FONDUE&TEAPOT&POURING LIQUID&BEANS&JAR@1FAE0&MELTINGcx&SALUTINGcx
   &cxabejovapkvdglv+PEEKING EYE+dslv&fzfqcx&BITING LIP&BUBBLES@1FAF0&kvabcmxcapdmmv&akkv&aqkv
   &PALMcpkv*UPkv&cmcdATmmVIEWER&jeyi@1FB00&esSEXTANT-1*SEXTANT-2*SEXTANT-12*SEXTANT-3*SEXTANT-13
   *SEXTANT-23*SEXTANT-123*SEXTANT-4*SEXTANT-14*SEXTANT-24*SEXTANT-124*SEXTANT-34*SEXTANT-134
   *SEXTANT-234*SEXTANT-1234*SEXTANT-5*SEXTANT-15*SEXTANT-25*SEXTANT-125*SEXTANT-35*SEXTANT-235
   *SEXTANT-1235*SEXTANT-45*SEXTANT-145*SEXTANT-245*SEXTANT-1245*SEXTANT-345*SEXTANT-1345
   *SEXTANT-2345*SEXTANT-12345*SEXTANT-6*SEXTANT-16*SEXTANT-26*SEXTANT-126*SEXTANT-36*SEXTANT-136
   *SEXTANT-236*SEXTANT-1236*SEXTANT-46*SEXTANT-146*SEXTANT-1246*SEXTANT-346*SEXTANT-1346
   *SEXTANT-2346*SEXTANT-12346*SEXTANT-56*SEXTANT-156*SEXTANT-256*SEXTANT-1256*SEXTANT-356
   *SEXTANT-1356*SEXTANT-2356*SEXTANT-12356*SEXTANT-456*SEXTANT-1456*SEXTANT-2456*SEXTANT-12456
   *SEXTANT-3456*SEXTANT-13456*SEXTANT-23456&cvaoesdscvbbaoTOcved>ah.dhbbaoTOcved>ah:aoTOcved
   *ahesdsdhbbaoTOdhed>ah.cvbbaoTOdhed>ah:aoTOdhed:bbaoTOdhbbah:edTOcvbbah:aoTOcvbbah:edTOdhbbah
   :aoTOdhbbah:edTOdhah*aoesdsdhedTOdhbbah:aoTOdhbbah:edTOcvbbah:aoTOcvbbah:edTOcvah:bbaoTOcvbbah
   &dhahesdscvbbaoTOcved>ah.dhbbaoTOcved>ah:aoTOcved*aoesdsdhbbaoTOdhed>ah.cvbbaoTOdhed>ah
   :aoTOdhed:bbaoTOdhbbah:edTOcvbbah:aoTOcvbbah:edTOdhbbah:aoTOdhbbah:edTOdhah*ahesdsdhedTOdhbbah
   :aoTOdhbbah:edTOcvbbah:aoTOcvbbah:edTOcvah:bbaoTOcvbbah*apahapcvfuatjwes&aoapcvapahfuatjwes
   &dhapaoapcvfuatjwes&aoapdhapahfuatjwes*fubrfres&dhfubrfres&ahfubrfres&cvfubrfres&arbriaBLOCK-2
   ,BLOCK-3,BLOCK-4,BLOCK-5,BLOCK-6,BLOCK-7&aybriaBLOCK-2,BLOCK-3,BLOCK-4,BLOCK-5,BLOCK-6,BLOCK-7
   &aoapcvbriaes+dhbriaes&ahapdhbriaes+cvbriaes&dhapcvbriaes&aybriaBLOCK-1358&dhbrfres*atlkes
   *btlkes*atjwes*bylkes&ahbrfres*atlkes*btlkes*atjwes*bylkes&aococbpn&ahcocbpn&dhcocbpn&cvcocbpn
   &qocbpn&dhcoesapcvcoqocbpn+qocbpnapcvcoes@1FB94&aocoqocbpnapahcoes&CHECKER BOARDvh
   &qoCHECKER BOARDvh&bhayvh&dhaoTOcvahvh*ahTOcvaovh*apcvfucoes&aoapahfucoes&dhaofucbpn*ahfucbpn
   &cvahfucbpn*aofucbpn&quDRAWINGScldsdhedTObbao=ah.bbaoTOcved:ahTOcved.dhedTObbaoTOcved=ahTOcved
   .bbaoTOcvedTObbah<dhedTObbah.dhedTObbaoapbbahTOcved=ahapbbaoTOcved>TOcvedTObbao=aoTOcvedTObbah
   .bbaoTOdhedTObbahTOcved:ahTOdhedTObbaoTOcved.eq,ayabarau&ARROWHEAD-SHAPED POINTER&qotpba
   &aocoRUNNINGuu&ahcoRUNNINGuu&qobdafabTIPaq&aqafapdhapcvbriaes&akafapdhapcvbriaes&bdafapahbriaes
   &bxafapahbriaes&aocoFOLDER&ahcoFOLDER&VOIDEDkagd&ahejfibv&jydsgd+bbahTOcved+eq&azbhorabqgzo
   &aosjazahcdcm&bbsjazahcdcm&ahsjazahcdcm&jyfifpba&STICK FIGURE+abARMSim+LEANINGao,ah+abDRESS
   &azibCHEVRON@1FBF0&SEGMENTEDcteh+br+bl+at+bm+bt+du+by+bp+cu@E0001&LANGUAGE TAG@E0020&TAGlg*eiba
   *erba*doag*yqag*PERCENTag*pa*mn*aocq*ahcq*dp*chag*en*xh*hhez*hq*cteh+br+bl+at+bm+bt+du+by+bp+cu
   *iq*kx*caag*glag*bkag*fpba*vmAT*feacaaA.B.C.D.E.F.G.H.I.J.K.L.M.N.O.P.Q.R.S.T.U.V.W.X.Y.Z
   *aobnbf*irhq*ahbnbf*bgfs*ftfq*effs*feadaaA.B.C.D.E.F.G.H.I.J.K.L.M.N.O.P.Q.R.S.T.U.V.W.X.Y.Z
   *aojqbf*arfq*ahjqbf*cs&CANCEL TAG@E0100&ydSELECTOR-17*SELECTOR-18*SELECTOR-19*SELECTOR-20
   *SELECTOR-21*SELECTOR-22*SELECTOR-23*SELECTOR-24*SELECTOR-25*SELECTOR-26*SELECTOR-27
   *SELECTOR-28*SELECTOR-29*SELECTOR-30*SELECTOR-31*SELECTOR-32*SELECTOR-33*SELECTOR-34
   *SELECTOR-35*SELECTOR-36*SELECTOR-37*SELECTOR-38*SELECTOR-39*SELECTOR-40*SELECTOR-41
   *SELECTOR-42*SELECTOR-43*SELECTOR-44*SELECTOR-45*SELECTOR-46*SELECTOR-47*SELECTOR-48
   *SELECTOR-49*SELECTOR-50*SELECTOR-51*SELECTOR-52*SELECTOR-53*SELECTOR-54*SELECTOR-55
   *SELECTOR-56*SELECTOR-57*SELECTOR-58*SELECTOR-59*SELECTOR-60*SELECTOR-61*SELECTOR-62
   *SELECTOR-63*SELECTOR-64*SELECTOR-65*SELECTOR-66*SELECTOR-67*SELECTOR-68*SELECTOR-69
   *SELECTOR-70*SELECTOR-71*SELECTOR-72*SELECTOR-73*SELECTOR-74*SELECTOR-75*SELECTOR-76
   *SELECTOR-77*SELECTOR-78*SELECTOR-79*SELECTOR-80*SELECTOR-81*SELECTOR-82*SELECTOR-83
   *SELECTOR-84*SELECTOR-85*SELECTOR-86*SELECTOR-87*SELECTOR-88*SELECTOR-89*SELECTOR-90
   *SELECTOR-91*SELECTOR-92*SELECTOR-93*SELECTOR-94*SELECTOR-95*SELECTOR-96*SELECTOR-97
   *SELECTOR-98*SELECTOR-99*SELECTOR-100*SELECTOR-101*SELECTOR-102*SELECTOR-103*SELECTOR-104
   *SELECTOR-105*SELECTOR-106*SELECTOR-107*SELECTOR-108*SELECTOR-109*SELECTOR-110*SELECTOR-111
   *SELECTOR-112*SELECTOR-113*SELECTOR-114*SELECTOR-115*SELECTOR-116*SELECTOR-117*SELECTOR-118
   *SELECTOR-119*SELECTOR-120*SELECTOR-121*SELECTOR-122*SELECTOR-123*SELECTOR-124*SELECTOR-125
   *SELECTOR-126*SELECTOR-127*SELECTOR-128*SELECTOR-129*SELECTOR-130*SELECTOR-131*SELECTOR-132
   *SELECTOR-133*SELECTOR-134*SELECTOR-135*SELECTOR-136*SELECTOR-137*SELECTOR-138*SELECTOR-139
   *SELECTOR-140*SELECTOR-141*SELECTOR-142*SELECTOR-143*SELECTOR-144*SELECTOR-145*SELECTOR-146
   *SELECTOR-147*SELECTOR-148*SELECTOR-149*SELECTOR-150*SELECTOR-151*SELECTOR-152*SELECTOR-153
   *SELECTOR-154*SELECTOR-155*SELECTOR-156*SELECTOR-157*SELECTOR-158*SELECTOR-159*SELECTOR-160
   *SELECTOR-161*SELECTOR-162*SELECTOR-163*SELECTOR-164*SELECTOR-165*SELECTOR-166*SELECTOR-167
   *SELECTOR-168*SELECTOR-169*SELECTOR-170*SELECTOR-171*SELECTOR-172*SELECTOR-173*SELECTOR-174
   *SELECTOR-175*SELECTOR-176*SELECTOR-177*SELECTOR-178*SELECTOR-179*SELECTOR-180*SELECTOR-181
   *SELECTOR-182*SELECTOR-183*SELECTOR-184*SELECTOR-185*SELECTOR-186*SELECTOR-187*SELECTOR-188
   *SELECTOR-189*SELECTOR-190*SELECTOR-191*SELECTOR-192*SELECTOR-193*SELECTOR-194*SELECTOR-195
   *SELECTOR-196*SELECTOR-197*SELECTOR-198*SELECTOR-199*SELECTOR-200*SELECTOR-201*SELECTOR-202
   *SELECTOR-203*SELECTOR-204*SELECTOR-205*SELECTOR-206*SELECTOR-207*SELECTOR-208*SELECTOR-209
   *SELECTOR-210*SELECTOR-211*SELECTOR-212*SELECTOR-213*SELECTOR-214*SELECTOR-215*SELECTOR-216
   *SELECTOR-217*SELECTOR-218*SELECTOR-219*SELECTOR-220*SELECTOR-221*SELECTOR-222*SELECTOR-223
   *SELECTOR-224*SELECTOR-225*SELECTOR-226*SELECTOR-227*SELECTOR-228*SELECTOR-229*SELECTOR-230
   *SELECTOR-231*SELECTOR-232*SELECTOR-233*SELECTOR-234*SELECTOR-235*SELECTOR-236*SELECTOR-237
   *SELECTOR-238*SELECTOR-239*SELECTOR-240*SELECTOR-241*SELECTOR-242*SELECTOR-243*SELECTOR-244
   *SELECTOR-245*SELECTOR-246*SELECTOR-247*SELECTOR-248*SELECTOR-249*SELECTOR-250*SELECTOR-251
   *SELECTOR-252*SELECTOR-253*SELECTOR-254*SELECTOR-255*SELECTOR-256"

end Collation.Unicode.Name
