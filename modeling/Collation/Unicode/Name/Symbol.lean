/-! Names of characters from U+2000 to U+2BFF: punctuation, arrows and other symbols. -/

namespace Collation.Unicode.Name

def symbols : String :=
  "@2000&ENvg&EMvg&ENlg&EMlg&THREE-PER-EMlg&FOUR-PER-EMlg&SIX-PER-EMlg&FIGURElg&cnlg&THINlg&HAIRlg
   &ehWIDTHlg+NON-JOINER+ys&shba&vyba&pt&NON-BREAKINGpt&FIGUREiv&ENiv&EMiv&ayeb&alarfq*ftfq
   &aodeerba&ahdeerba&deLOW-9erba*HIGH-REVERSED-9erba&aoalerba&ahalerba&alLOW-9erba
   *HIGH-REVERSED-9erba&DAGGER&alDAGGER&ns&funs&brbvLEADER&blbvLEADER&ayro&HYPHENATIONsd&fqgb&xygb
   &shEMBEDDING&vyEMBEDDING&POP DIRECTIONAL FORMATTING&shOVERRIDE&vyOVERRIDE&NARROW NO-BREAKlg
   &PER MILLEag*gwbeag&ti&alti&ewti&bzti*alti*ewti&vw&deeufderba*eafderba&REFERENCEba&aleiba&uz&rm
   &UNDERTIE&nxTIE&vwINSERTIONsd&ASTERISM&ptns&ifoo&aobnbfabQUILL&ahbnbfabQUILL&alfpba&fpeiba
   &eifpba&TIRONIANagET&bzPILCROWag&axaqns*akns&ftdp&bzkx&CLOSE UP&blASTERISKS ALIGNEDqi&vmniag
   &SWUNGiv&ccUNDERTIE&FLOWERcnba&atbvcn&luti&bmbvcn&btbvcn&blbvcn&bmbvba&fzgd&TRICOLON&arbmdb
   &cbpwlg&txys&FUNCTION APPLICATION&INVISIBLEbq*gb*ch@2066&shISOLATE&vyISOLATE&yeSTRONG ISOLATE
   &POP DIRECTIONAL ISOLATE&INHIBIT SYMMETRIC SWAPPING&ACTIVATE SYMMETRIC SWAPPING
   &INHIBITkqaeSHAPING&ACTIVATEkqaeSHAPING&NATIONALctSHAPES&NOMINALctSHAPES&iseh*feadaaI@2074*bm
   *bt*du*by*bp*cu*chag*ni*glag*aocq*ahcq*feadaaN&sfeh*br*bl*at*bm*bt*du*by*bp*cu*chag*ni*glag
   *aocq*ahcq@2090&fesfadaaA.E.O.X.vn.H.K.L.M.N.P.S.T@20A0&EURO-CURRENCYag&iqag&CRUZEIROag
   &FRENCH FRANCag&LIRAag&MILLag&NAIRAag&PESETAag&RUPEEag&WONag&NEW SHEQELag&DONGag&EUROag&KIPag
   &TUGRIKag&DRACHMAag&GERMAN PENNYag&PESOag&GUARANIag&AUSTRALag&HRYVNIAag&CEDIag&LIVRE TOURNOISag
   &SPESMILOag&TENGEag&INDIAN RUPEEag&TURKISH LIRAag&NORDICbaag&MANATag&RUBLEag&LARIag&BITCOINag
   &SOMag@20D0&dvaodiai*ahdiai*emarfqhv*ffarfqhv*fhafai*kfafai*aoafai*ahafai*dxhv*kfdxhv*fhdxhv
   *atdbai*bmdbai*ENCLOSINGbu+bn+eq+busi*aoahafai*ENCLOSING SCREEN+KEYCAP+UPWARDcdbi*irhqhv
   *alarauhv*ANNUITYav*ewUNDERDOT*WIDE BRIDGEai*aqafhv*emalhqhv*akdiabecbd*aqdiabecbd*aoafam
   *ahafam*dpai@2100&ACCOUNT OF&ADDRESSED TOmmSUBJECT&iwacC&DEGREE CELSIUS&edfqav&CARE OF&CADA UNA
   &EULER CONSTANT&SCRUPLE&DEGREE FAHRENHEIT&jcadG*acH&toacH&iwacH&PLANCK CONSTANT+dgblPI&jcacI
   &toacI&jcacL*adL&L Bebav&iwacN&NUMEROag&nzRECORDING COPYRIGHT&jcacP&iwacP+Q&jcacR&toacR&iwacR
   &PRESCRIPTION TAKE&RESPONSE&SERVICEba&lbag&TRADEbaag&VERSICLE&iwacZ&OUNCEag&OHMag&ccOHMag&toacZ
   &crkaadaakp&KELVINag&ANGSTROMag&jcacB&toacC&ESTIMATEDav&jcadE*acE+F&cracF&jcacM*adO&dkav&BETav
   &olav&DALETav&INFORMATION SOURCE&czacQ&FACSIMILEag&iwadPI+lh*aclh+PI*N-ARY SUMMATION&crfnacG,L
   &bzfnacL&crfnacY&iwrgacD+adD,E,I,J&PROPERTYfq&crpa&PERag&AKTIESELSKAB&cradF
   &avmkSAMARITAN SOURCE&VULGARifbrSEVENTH,NINTH,TENTH,sj+blva+brFIFTH+blFIFTHS+atFIFTHS+bmFIFTHS
   +brSIXTH+btSIXTHS+bria+atlk+btlk+bylk&ifNUMERATORbr&ROMANqdbr+bl+at+bm+bt+du+by+bp+cu+gw+px+nt
   +ie+brbc+btbc+brbe&adROMANqdbr,bl,at,bm,bt,du,by,bp,cu,gw,px,nt,ie,brbc,btbc,brbe
   &ROMANqdbrbeC D+btbe+gwbe+bzbrbc&feadaabzC&ROMANqdduLATEae+ieEARLYae,be+brbcbe&VULGARifehva
   &crctbl+at@2190&aqaf&bxaf&akaf&bdaf&aoahaf&UPcpaf&fvhcaf*fyaf&gqfyaf*hcaf&aqafabau&akafabau
   &aqofaf&akofaf&aqblHEADEDaf&bxblHEADEDaf&akblHEADEDaf&bdblHEADEDaf&aqafabgt&akafabgt&aqafkueb
   &bxafkueb&akafkueb&bdafkueb&UPcpafabBASE&aqafabbo&akafabbo&aqafabqz&akafabqz&aoahofaf+afabau
   &bdwjaf&bxafabTIPaq.ak&bdafabTIPaq.ak&akafabhfbd&bdafabhfaq&fhlrvzaf&kflrvzaf&fvhcafTOemeb
   &aqafTOebdgakafTOeb&fhejbuaf&kfejbuaf&aqdiabecbx.bd&bxdiabecak.aq&akdiabecbx.bd&bddiabecak.aq
   &akafdgaqaf&bxafaqOFbdaf&aqafdgakaf*wqmf&bxwqmf&akwqmf&bdwqmf&aqdidgakdi&akdidgaqdi&aqalafabau
   &aoahalafabau&akalafabau&aqalaf&bxalaf&akalaf&bdalaf&aoahalaf&UPcpalaf&fvhcalaf*fyalaf&gqfyalaf
   *hcalaf&aqewaf&akewaf&aqSQUIGGLEaf&akSQUIGGLEaf&bxafabalau&bdafabalau&aqopaf&bxopaf&akopaf
   &bdopaf&aqafTOeb&akafTOeb&aqazaf&bxazaf&akazaf&bdazaf&bxazafkueb,ON PEDESTAL:abayeb;areb+alaf
   .ON PEDESTAL&akazafkuzl&fvhcafTOhf&gqfyafTOhf&UPcpazaf&ahafabadbu&bdafaqOFbxaf&atakmf
   &aqafabarau&akafabarau&aoahafabarau&aqafabalarau&akafabalarau&aoahafabalarau&aqOPEN-HEADEDaf
   &akOPEN-HEADEDaf&aoahOPEN-HEADEDaf&mkALL&COMPLEMENT&zmpy&THERE EXISTS*DOESizEXIST&EMPTY SET
   &INCREMENT&NABLA&qmOF&izANqmOF&adqmOF&rpAS MEMBER&DOESizCONTAIN AS MEMBER&adrpAS MEMBER
   &owOF PROOF&N-ARYmr*COPRODUCT*SUMMATION&niag&MINUS-OR-PLUSag&bvch&rloo&SETni&dpdy&dxdy&nsdy
   &bnROOT&CUBE ROOT&FOURTH ROOT&PROPORTIONAL TO&wp&ahfd&fd&MEASUREDfd&SPHERICALfd&DIVIDES
   &DOESizDIVIDE&rqTO&izrqTO&msap*OR&gi&oa&ig&alig&ewig&CONTOURig&SURFACEig&VOLUMEig&kfig
   *CONTOURig&fhCONTOURig&THEREFORE&BECAUSE&RATIO&PROPORTION&bvni&EXCESS&GEOMETRIC PROPORTION
   &HOMOTHETIC&csdy&bzcs&ccLAZY S&SINEof&WREATHmr&izcs&nics&ASYMPTOTICALLYcjTO
   &izASYMPTOTICALLYcjTO&skcjTO*BUTizACTUALLYcjTO&NEITHERskNOR ACTUALLYcjTO&mdcjTO&izmdcjTO
   &mdcjORcjTO&ewcs&ALLcjTO&ihTO&GEOMETRICALLYihTO&DIFFERENCEkg&APPROACHESmmLIMIT
   &GEOMETRICALLYcjTO&skcjTO ORmmyfOF&yfOF ORskcjTO&iqgl&gliq&dxINcjTO*cjTO&CORRESPONDS TO
   &ESTIMATES&EQUIANGULAR TO&gkgl&mccjTO&cjTO BY DEFINITION&MEASURED BY&QUESTIONEDcjTO&izcjTO
   &IDENTICAL TO&izIDENTICAL TO&STRICTLYihTO&caORcjTO&bkORcjTO&cadgcjTO&bkdgcjTO&caBUTizcjTO
   &bkBUTizcjTO&MUCHca*bk&kg&izihTO*ca*bk&NEITHERcaNORcjTO*bkNORcjTO&caORihTO&bkORihTO
   &NEITHERcaNORihTO*bkNORihTO&caORbk&bkORca&NEITHERcaNORbk*bkNORca&ll&lm&llORcjTO&lmORcjTO
   &llORihTO&lmORihTO&DOESizPRECEDE+SUCCEED&inOF&gzOF&izAinOF+gzOF&inOF ORcjTO&gzOF ORcjTO
   &NEITHER AinOF NORcjTO+gzOF NORcjTO&inOFabizcjTO&gzOFabizcjTO&MULTISET*hy*oa&bnyfOF*ORIGINAL OF
   *yfOF ORcjTO*ORIGINAL OF ORcjTO*CAP*CUP&dnch*ni*bq*rloo*bvdy*dxdy*dpdy*gl*iv&fich*ni*bq*bvdy
   &ahjt&aojt&cpjt&UPjt&ASSERTION&MODELS&TRUE&FORCES&ewarebahpj&alarebalahpj&DOESizPROVE&izTRUE
   &DOESizFORCE&NEGATEDalarebalahpj&llygRELATION&lmygRELATION&tcrrOF&rpAStcrr&tcrrOF ORcjTO
   &rpAStcrrORcjTO&ORIGINAL OF&yfOF&MULTIMAP&HERMITIAN CONJUGATE MATRIX&INTERCALATE&XOR&NAND&NOR
   &ahfdabzn*bi&N-ARYmsap+OR*gi*oa&eqdy&bvdy&gkdy&rlbq&BOWTIE&aotcFACTORwamr&ahtcFACTORwamr&aowamr
   &ahwamr&bzcsgl&jqmsOR+ap&alin*gz*gi*oa&PITCHFORK&cjaprqTO&caabbv&bkabbv&ltMUCHca+bk&cacjTO ORbk
   &bkcjTO ORca&cjTO ORca,bk,ll,lm&DOESizPRECEDE ORcj+SUCCEED ORcj&izbnyfOF ORcjTO
   +ORIGINAL OF ORcjTO&bnyfOF ORizcjTO*ORIGINAL OF ORizcjTO&caBUTizihTO&bkBUTizihTO&llBUTizihTO
   &lmBUTizihTO&iztcrrOF&DOESizCONTAIN AStcrr&iztcrrOF ORcjTO&DOESizCONTAIN AStcrrORcj&arro
   &MIDLINEayro&UPahdsro&cpahdsro&qmOFabemayau,arebATowOFayau&adqmOFabarebATowOFayau&qmOFabbvai,mt
   &adqmOFabmt&qmOFabgr,blaySTROKES&rpabemayau+arebATowOFayau&adrpabarebATowOFayau&rpabmt&adrpabmt
   &ZrsBAG MEMBERSHIP&DIAMETERag&ELECTRICaf&HOUSE&UPbw&cpbw&PROJECTIVE&PERSPECTIVE&WAVYfq&aosl
   &ahsl&aowb&ahwb&heahCROP*aoCROP&lrahCROP*aoCROP&bzizag&bnmu&zn&SEGMENT&SECTOR&lbRECORDER
   &POSITIONpb&VIEWDATAbn&PLACE OF INTERESTag&crizag&WATCH&HOURGLASS&lraohf*ahhf&heaohf*ahhf
   &lrcoig&hecoig&FROWN&SMILE&UPbwkgblayBARS&OPTION KEY&ERASE TOmmah&X IN Asmqu&KEYBOARD&eufdbf
   &eafdbf&ERASE TOmmao&BENZENEdx&CYLINDRICITY&ALL AROUND-PROFILE&SYMMETRY&TOTAL RUNOUT
   &DIMENSION ORIGIN&CONICAL TAPER&SLOPE&COUNTERBORE&COUNTERSINK&APL FUNCTIONALavI-BEAM,SQUISHvg
   ,vgcj.DIVIDE.eq.JOT.bu,buSTILE.JOT,ooeb,sieb,vgoo.si.ca.bk,aqVANE,akVANE,vgaqaf.akaf,busi
   ,cpjtgr,mcSTILE,vgcpvw.mc,cpjtJOT,bxVANE,vgbxaf,UPjtmt,DEL STILE,vgUPvw.DEL,UPjtJOT,bdVANE
   ,vgbdaf,QUOTEgr,mcgr,eqgr,JOTgr,bugr,UP SHOE JOT,QUOTEvg,bugk,vgiq,UPjtbs,DELbs,gkbs,JOTbs,bubs
   ,cpSHOE STILE,aoSHOE STILE,csbs,bkbs,eneb,DELcs,ZILDE,STILEcs,kxgr,vgizcj.fp,cpvwcs,UPvwcs,kp
   ,qq,hk,icgr,hjgr,kpgr,hkgr,ic&iztpba&ahfdabbdwjaf&SHOULDEREDejqu&BELLav&arfqabbbbv&INSERTIONav
   &CONTINUOUS UNDERLINEav&DISCONTINUOUS UNDERLINEav&EMPHASISav&COMPOSITIONav&azbnabedarfq&ENTERav
   &ALTERNATIVE KEYav&HELMav&dnayebabNOTCH*bicp&BROKENbuabNORTHWESTaf&UNDOav&MONOSTABLEav
   &HYSTERESISav&OPEN-CIRCUIT-OUTPUT H-TYPEav*L-TYPEav&PASSIVE-PULL-DOWN-OUTPUTav
   &PASSIVE-PULL-UP-OUTPUTav&DIRECT CURRENTavaebl&SOFTWARE-FUNCTIONav&APL FUNCTIONALavvg
   &DECIMALgbKEYav&PREVIOUS PAGE&NEXT PAGE&PRINT SCREENav&CLEAR SCREENav&aocqdhbo+pk+cvbo&ahcqdhbo
   +pk+cvbo&aobnbfdhhf,pk,cvhf&ahbnbfdhhf,pk,cvhf&aojqbfdhbo,bbPIECE,cvbo&jqbfpk&ahjqbfdhbo
   ,bbPIECE,cvbo&igpk&ayfqpk&dhaoORcvahjqbfhr*ahORcvaojqbfhr&SUMMATIONlr*he&lrbnbf&hebnbf,dglrbnbf
   &RADICALavhe&aoarqufq&aharqufq&aySCAN LINE-1+LINE-3+LINE-7+LINE-9&DENTISTRYavclaraplrah:heah
   .abbu,cpapayabbu,UPapayabbu,arabbi,cpapayabbi,UPapayabbi,arapof,cpapayabof,UPapayabof,cpapay
   ,UPapay,araplrao:heao&bnFOOT&RETURNav&EJECTav&arfqpk&METRICALey*emdgff*ffdgem*emdgblSHORTS
   *blSHORTSdgem,JOINED*TRISEME*TETRASEME*PENTASEME&qvGROUND&FUSE&lrcq&hecq&lrjqbf&hejqbf&lriykmbf
   &heiykmbf&azTRAPEZIUM&BENZENEdxabbu&STRAIGHTNESS&FLATNESS&AC CURRENT&ELECTRICALgi
   &DECIMAL EXPONENTav&axeaalbi*eualbi*ibalbi*hxalbi*eaalbiabareb*eualbiabareb*eabiabalareb
   &ALARM CLOCK&STOPWATCH&TIMER CLOCK&HOURGLASSabFLOWING SAND&axcbeubi+eabi+ibbi+hxbi&alareb
   &axbnmkez*bumkRECORD&POWERav*ON-OFFav*ONav*SLEEPav&OBSERVER EYEav&avmkNULL+START OF HEADING
   .TEXT+owOF TEXT.TRANSMISSION+ENQUIRY+ACKNOWLEDGE+BELL+BACKSPACE+ayTABULATION+fqFEED
   +arTABULATION+aeFEED+CARRIAGE RETURN+SHIFT OUT,IN+DATA LINK ESCAPE+DEVICE CONTROLbr.bl.at.bm
   +jyACKNOWLEDGE+SYNCHRONOUS IDLE+owOF TRANSMISSIONes+CANCEL+owOFcb+SUBSTITUTE+ESCAPE+FILEgb
   +GROUPgb+RECORDgb+UNITgb+lg+DELETE&BLANKav&ejqu&avmkNEWLINE+DELETEaebl+SUBSTITUTEaebl
   @2440&OCRbo*CHAIR*FORK*ccFORK*yrBUCKLE*BOW TIE*BRANCH BANK IDENTIFICATION*AMOUNT OFtp*iv
   *CUSTOMER ACCOUNTdo*alsi@2460&dnctbr+bl+at+bm+bt+du+by+bp+cu*dogw+px+nt+rt+ru+oq+qj+pl+pm+rv+fl
   &wcctbr+bl+at+bm+bt+du+by+bp+cu*dogw+px+nt+rt+ru+oq+qj+pl+pm+rv+fl&ctbrhhez*blhhez*athhez
   *bmhhez*bthhez*duhhez*byhhez*bphhez*cuhhez&dogwhhez*pxhhez*nthhez*rthhez*ruhhez*oqhhez*qjhhez
   *plhhez*pmhhez*rvhhez*flhhez&wcfeadaaA.B.C.D.E.F.G.H.I.J.K.L.M.N.O.P.Q.R.S.T.U.V.W.X.Y.Z
   &dnfeacaaA.B.C.D.E.F.G.H.I.J.K.L.M.N.O.P.Q.R.S.T.U.V.W.X.Y.Z+adaaA.B.C.D.E.F.G.H.I.J.K.L.M.N.O
   .P.Q.R.S.T.U.V.W.X.Y.Z*cteh&jydndopx,nt,rt,ru,oq,qj,pl,pm,rv,fl&aldnctbr,bl,at,bm,bt,du,by,bp
   ,cu+dogw&jydncteh&quDRAWINGSclay+bhay+clar+bhar+clewivay+bhewivay+clewivar+bhewivar+clluivay
   +bhluivay+clluivar+bhluivar+clcpapah+cpclapahbh,bhapahcl+bhcpapah+clcpapao+cpclapaobh,bhapaocl
   +bhcpapao+clUPapah+UPclapahbh,bhapahcl+bhUPapah+clUPapao+UPclapaobh,bhapaocl+bhUPapao+clarapah
   +arclapahbh+UPbhapahcpcl+cpbhapahUPcl+arbhapahcl+cpclapahUPbh+UPclapahcpbh+bharapah+clarapao
   +arclapaobh+UPbhapaocpcl+cpbhapaoUPcl+arbhapaocl+cpclapaoUPbh+UPclapaocpbh+bharapao+clcpapay
   +aobhapahcpcl+ahbhapaocpcl+cpclapaybh,bhapaycl+ahclapaocpbh+aoclapahcpbh+bhcpapay+clUPapay
   +aobhapahUPcl+ahbhapaoUPcl+UPclapaybh,bhapaycl+ahclapaoUPbh+aoclapahUPbh+bhUPapay+clarapay
   +aobhapaharcl+ahbhapaoarcl+arclapaybh+UPbhapcpaycl+cpbhapUPaycl+arbhapaycl+aoUPbhapahcpcl
   +ahUPbhapaocpcl+aocpbhapahUPcl+ahcpbhapaoUPcl+cpclapUPaybh+UPclapcpaybh+ahclapaoarbh
   +aoclapaharbh+bharapay+clalivay+bhalivay+clalivar+bhalivar+alay,ar+cpdeapahal,alapahde+alcpapah
   +cpdeapaoal,alapaode+alcpapao+UPdeapahal,alapahde+alUPapah+UPdeapaoal,alapaode+alUPapao
   +ardeapahal,alapahde+alarapah+ardeapaoal,alapaode+alarapao+cpdeapayal,alapayde+alcpapay
   +UPdeapayal,alapayde+alUPapay+ardeapayal,alapayde+alarapay+clzncpapah;ao.UPapao;ah,dsdhahTOcvao
   :aoTOcvah.gd,ao,UP,ah,cp+bhao,UP,ah,cp+claoapbhah,UPapbhcp+bhaoapclah,UPapclcp&dhcoes&cvbriaes
   +fres*atlkes*coes*btlkes*atjwes*bylkes&hhes&aobylkes*atjwes*btlkes*coes*atlkes*brfres+iaes
   &ahcoes&clpn&cbpn&DARKpn&dhbriaes&ahbriaes&jzcvao+ah*dhao,apcvaoapcvah:ah.dhahapcvao=ah+ah
   ,apcvao;apcvah&axbn&azbn+abqgzo+qnaxadbn&bnabayvh+arvh+ORTHOGONAL CROSSHATCHvh+dhaoTOcvahvh
   ,ahTOcvaovh+dsCROSSHATCHvh&axadbn&azadbn&axsm&azsm&axarsm&azarsm&axPARALLELOGRAM
   &azPARALLELOGRAM&axibbi&azibbi&axibadbi&azibadbi&axeabi&azeabi&axeaadbi&azeaadbi&axeaPOINTER
   &azeaPOINTER&axhxbi&azhxbi&axhxadbi&azhxadbi&axeubi&azeubi&axeuadbi&azeuadbi&axeuPOINTER
   &azeuPOINTER&axeq&azeq+qnaxadeq&FISHEYE&mu&azbu&fzbu&buabarvh&BULLSEYE&axbu&buabaocoax+ahcoax
   +cvcoax+dhcoax,ahjzax+ALL BUTdhaojzax&aocoaxbu&ahcoaxbu&qons*azbu&dhcoqoazbu&cvcoqoazbu
   &dhaojzCIRCULARzn*ahjzCIRCULARzn&cvahjzCIRCULARzn*aojzCIRCULARzn&dhcobu&cvcobu&axcvahbi+aobi
   *dhaobi+ahbi&azns&bnabaocoax+ahcoax+dhaodscoax+cvahdscoax&azbnabarBISECTINGfq*ibbiabbv
   &ibbiabaocoax,ahcoax&eebu&azbnabdhaojz,cvaojz.ahjz,dhahjz*buabdhaojz,cvaojz.ahjz,dhahjz&dhaobi
   *ahbi&cvaobi&azcbbn&axcbbn&azcbadbn&axcbadbn&cvahbi&axSUNabRAYS&CLOUD&UMBRELLA&SNOWMAN&COMET
   &axgk&azgk&LIGHTNING&THUNDERSTORM&SUN&ASCENDING NODE&DESCENDING NODE&CONJUNCTION&OPPOSITION
   &axlb&azlb&zpqu+abtp,X&or&UMBRELLAabRAIN DROPS&HOT BEVERAGE&azSHOGI PIECE&axSHOGI PIECE
   &SHAMROCK&bzczFLORALjens&axaocdcm*ahcdcm&azaocdcm*UPcdcm*ahcdcm*cpcdcm&SKULLapCROSSBONES
   &CAUTIONag&RADIOACTIVEag&BIOHAZARDag&CADUCEUS&ANKH&ORTHODOXgd&ssqq&gdOF LORRAINE+JERUSALEM
   &gkapwr&FARSIav&ADI SHAKTI&HAMMERapSICKLE&PEACEav&YINxi&TRIGRAMmkHEAVEN+LAKE+zq+THUNDER+zr+sn
   +rw+qv&WHEEL OF DHARMA&azFROWNINGcx*khcx&axkhcx&azSUNabRAYS&yefrmg&LASTfrmg&MERCURY&FEMALEag&qv
   &MALEag&JUPITER&SATURN&URANUS&NEPTUNE&PLUTO&ARIES&TAURUS&GEMINI&CANCER&LEO&VIRGO&LIBRA&SCORPIUS
   &SAGITTARIUS&CAPRICORN&AQUARIUS&PISCES&aziora+os+xp+pz+hu+xq&axiora+os+xp+pz+hu+xq*SPADE SUIT
   &azjeSUIT*eqSUIT&axCLUB SUIT&azSPADE SUIT&axjeSUIT*eqSUIT&azCLUB SUIT&HOT SPRINGS&froz&iaoz
   &BEAMEDiaNOTES*uqNOTES&MUSIC FLATag*NATURALag*SHARPag&hcSYRIACgd&fySYRIACgd
   &UNIVERSAL RECYCLINGav&RECYCLINGavmkTYPE-1uf,TYPE-2uf,TYPE-3uf,TYPE-4uf,TYPE-5uf,TYPE-6uf
   ,TYPE-7uf,GENERIC MATERIALS&axUNIVERSAL RECYCLINGav&RECYCLED PAPERav&PARTIALLY-RECYCLED PAPERav
   &PERMANENT PAPERag&WHEELCHAIRav&DIE FACE-1*FACE-2*FACE-3*FACE-4*FACE-5*FACE-6&azbuabbvah,bldb
   &axbuabazbvah,blazdb&wsmkxi+YIN&DIGRAMmkGREATERxi+LESSER YIN,xi+GREATER YIN&azxr&axxr
   &HAMMERapPICK&ANCHOR&mvSWORDS&STAFF OF AESCULAPIUS&SCALES&ALEMBIC&FLOWER&GEAR&STAFF OF HERMES
   &ATOMav&FLEUR-DE-LIS&ugazgk&atLINES CONVERGINGah,ao&WARNINGag&evVOLTAGEag&DOUBLED FEMALEag
   *MALEag&INTERLOCKED FEMALEapMALEag&MALEapFEMALEag*abauag,apMALEapFEMALEag&arMALEabauag
   &ayMALEabauag&cbazbu*axbu*adazbu&MARRIAGEav&DIVORCEav&UNMARRIED PARTNERSHIPav&COFFIN
   &FUNERAL URN&NEUTER&CERES&PALLAS&JUNO&VESTA&CHIRON&axmgLILITH&SEXTILE&SEMISEXTILE&QUINCUNX
   &SESQUIQUADRATE&SOCCERxs&BASEBALL&fiKEY&azDRAUGHTSuu+ra&axDRAUGHTSuu+ra&SNOWMAN WITHOUT SNOW
   &SUN BEHIND CLOUD&RAIN&axSNOWMAN&THUNDER CLOUDapRAIN&crazSHOGI PIECE*axSHOGI PIECE&azeqINbn
   &fcLANES&DISABLED CAR&OPHIUCHUS&PICK&CAR SLIDING&HELMETabazgd&dnfcLANES&CHAINS&NO ENTRY
   &gjONE-WAYaoWAY TRAFFIC&axTWO-WAYaoWAY TRAFFIC&azTWO-WAYaoWAY TRAFFIC&axaoLANE MERGE
   &azaoLANE MERGE&DRIVE SLOWag&bhazhxbi&aogmENTRY&fior&wddsINazbuINaxbn&axTRUCK
   &RESTRICTEDaoENTRY-1+ENTRY-2&ASTRONOMICALavmkURANUS&bhbuabauapbldbai&PENTAGRAM
   &RIGHT-HANDED INTERLACED PENTAGRAM&LEFT-HANDED INTERLACED PENTAGRAM&ccPENTAGRAM&axgdON SHIELD
   &SHINTO SHRINE&CHURCH&CASTLE&HISTORIC SITE&GEAR WITHOUT HUB*abHANDLES&MAPavmkLIGHTHOUSE&rw
   &UMBRELLA ON GROUND&FOUNTAIN&xrIN HOLE&FERRY&SAILBOAT&bnbmzo&SKIER&ICE SKATE&mhabxs&TENT
   &uhBANKav&HEADSTONE GRAVEYARDav&FUEL PUMP&CUP ONaxbn&azxrabaybbaxSTRIPE&axSAFETYwt&dhBLADEwt
   &axwt&cvBLADEwt&azwt*bhtpba&lbLOCATIONag&TAPE DRIVE&ui&po&imFIST*kv&VICTORYkv&WRITINGkv
   &cvahPENCIL&PENCIL&dhahPENCIL&azNIB&axNIB&tpba&bhtpba&hyX&bhhyX&zpX&bhzpX&ugkagd&bhkagd&ejedgd
   &bhejedgd&fegd&lnazfegd&ugfegd&MALTESEgd&gkOF DAVID&bmlodp*BALLOON-SPOKEDdp
   &bhbmBALLOON-SPOKEDdp&bmCLUB-SPOKEDdp&axbmfggk&azbmfggk&SPARKLES&STRESSugazgk&dnazgk&ejedaxgk
   &axedazgk&ugaxgk&bhugaxgk&ppgk&lnazgk&bhdp&ejeddp&bplfdp*fgaxgk+ppgk&dufgaxgk
   &bpfgRECTILINEARaxgk&bhbpfgRECTILINEARaxgk&ntfgaxgk&qjfgdp&lodp&ejedlodp&bhlodp
   &duPETALLEDaxapazFLORETTE&axFLORETTE&azFLORETTE&bpPETALLEDugaxFLORETTE&dnejedbpfggk&bhloppdp
   &SNOWFLAKE&TIGHT TRIFOLIATE SNOWFLAKE&bhCHEVRON SNOWFLAKE&SPARKLE&bhSPARKLE&BALLOON-SPOKEDdp
   &bploPROPELLERdp&bhbploPROPELLERdp&gdba&lnazbu&jyfigdba&cvahDROP-SHADOWEDazbn
   &dhahDROP-SHADOWEDazbn&cvahlnazbn&dhahlnazbn&axfpbada&azfpbada*eibada&axeqniazX&bheibaav&clareb
   &cbareb&bhareb*decrenerbada+enerbada*alcrenerbada+enerbada*ftdeenerbada+alenerbada&rhSTEMxyagda
   &bheibada*jeeibada*axje&czbhaxjens&FLORALje&czFLORALjens&cbaocqda*ahcqda*FLATTENEDaocqda+ahcqda
   *eufdbfda*eafdbfda&bheufderbada*eafderbada*eufdbfda*eafdbfda&claoiykmbfda*ahiykmbfda&cbaojqbfda
   *ahjqbfda&DINGBATjydnctbr.bl.at.bm.bt.du.by.bp.cu,dogw*dnfnctbr.bl.at.bm.bt.du.by.bp.cu,dogw
   *jydnfnctbr:bl:at:bm:bt:du:by:bp:cu.dogw&bhWIDE-HEADEDakaf*chag*niag*rlag*gqfyaf*akaf*fvfyaf
   &DRAFTINGsdakaf&bhROUND-TIPPEDakaf&awakaf&bhawakaf&opawakaf&bhopawakaf&axakaf
   &THREE-D TOP-LIGHTEDakbw*BOTTOM-LIGHTEDakbw&axakbw&bhaxrhbdapakaf,bxapakaf&SQUATaxakaf
   &bhCONCAVE-POINTEDaxakaf&RIGHT-SHADEDazakaf&LEFT-SHADEDazakaf&BACK-TILTEDlnazakaf
   &FRONT-TILTEDlnazakaf&bhcvviazakaf*dhviazakaf&socvviazakaf&jqqz&sodhviazakaf&dnbhazakaf
   &WHITE-FEATHEREDakaf&BLACK-FEATHEREDgqfyaf*akaf*fvfyaf&bhBLACK-FEATHEREDgqfyaf+akaf+fvfyaf
   &TEARDROP-BARBEDakaf&bhTEARDROP-SHANKEDakaf&WEDGE-TAILEDakaf&bhWEDGE-TAILEDakaf
   &OPEN-OUTLINEDakaf&aljqqz&atDIMENSIONALfd&azbiqnadazbi&PERPENDICULAR&ejin*gz
   &aoS-SHAPED BAG DELIMITER&ahS-SHAPED BAG DELIMITER&ORabbvkr&irhqPRECEDINGin&gzPRECEDINGhq
   &arebabayau&pwomds&emrl&pwwdds&fimsap+OR&azeqabttbv&apabbv&qmOF OPENINGbx&cvahhfabbv&dhaohfabbv
   &aoOUTER JOIN&ahOUTER JOIN&hhOUTER JOIN&eeUPjt*cpjt&aoapahalpj,jt*MULTIMAP&emahjt*aojt
   &UPjtabbuai&muDIVIDED BYayRULE&azCONCAVE-SIDEDeq,abaqTICK.akTICK*bnabaqTICK,akTICK&pwaoazbnbf
   *ahazbnbf*aofdbf*ahfdbf*aoalfdbf*ahalfdbf*aoaziykmbf*ahaziykmbf*aoFLATTENEDcq*ahFLATTENEDcq
   &bxluaf&bdluaf&fhGAPPEDbuaf&kfGAPPEDbuaf&ahafabdnch&emaqaf*akaf*aoahaf*aqalaf*akalaf*aoahalaf
   *aqafkueb*akafkueb*aqalafkueb*akalafkueb+SQUIGGLEaf&BRAILLE PATTERN BLANK+DOTS-1+DOTS-2+DOTS-12
   +DOTS-3+DOTS-13+DOTS-23+DOTS-123+DOTS-4+DOTS-14+DOTS-24+DOTS-124+DOTS-34+DOTS-134+DOTS-234
   +DOTS-1234+DOTS-5+DOTS-15+DOTS-25+DOTS-125+DOTS-35+DOTS-135+DOTS-235+DOTS-1235+DOTS-45+DOTS-145
   +DOTS-245+DOTS-1245+DOTS-345+DOTS-1345+DOTS-2345+DOTS-12345+DOTS-6+DOTS-16+DOTS-26+DOTS-126
   +DOTS-36+DOTS-136+DOTS-236+DOTS-1236+DOTS-46+DOTS-146+DOTS-246+DOTS-1246+DOTS-346+DOTS-1346
   +DOTS-2346+DOTS-12346+DOTS-56+DOTS-156+DOTS-256+DOTS-1256+DOTS-356+DOTS-1356+DOTS-2356
   +DOTS-12356+DOTS-456+DOTS-1456+DOTS-2456+DOTS-12456+DOTS-3456+DOTS-13456+DOTS-23456+DOTS-123456
   +DOTS-7+DOTS-17+DOTS-27+DOTS-127+DOTS-37+DOTS-137+DOTS-237+DOTS-1237+DOTS-47+DOTS-147+DOTS-247
   +DOTS-1247+DOTS-347+DOTS-1347+DOTS-2347+DOTS-12347+DOTS-57+DOTS-157+DOTS-257+DOTS-1257+DOTS-357
   +DOTS-1357+DOTS-2357+DOTS-12357+DOTS-457+DOTS-1457+DOTS-2457+DOTS-12457+DOTS-3457+DOTS-13457
   +DOTS-23457+DOTS-123457+DOTS-67+DOTS-167+DOTS-267+DOTS-1267+DOTS-367+DOTS-1367+DOTS-2367
   +DOTS-12367+DOTS-467+DOTS-1467+DOTS-2467+DOTS-12467+DOTS-3467+DOTS-13467+DOTS-23467+DOTS-123467
   +DOTS-567+DOTS-1567+DOTS-2567+DOTS-12567+DOTS-3567+DOTS-13567+DOTS-23567+DOTS-123567+DOTS-4567
   +DOTS-14567+DOTS-24567+DOTS-124567+DOTS-34567+DOTS-134567+DOTS-234567+DOTS-1234567+DOTS-8
   +DOTS-18+DOTS-28+DOTS-128+DOTS-38+DOTS-138+DOTS-238+DOTS-1238+DOTS-48+DOTS-148+DOTS-248
   +DOTS-1248+DOTS-348+DOTS-1348+DOTS-2348+DOTS-12348+DOTS-58+DOTS-158+DOTS-258+DOTS-1258+DOTS-358
   +DOTS-1358+DOTS-2358+DOTS-12358+DOTS-458+DOTS-1458+DOTS-2458+DOTS-12458+DOTS-3458+DOTS-13458
   +DOTS-23458+DOTS-123458+DOTS-68+DOTS-168+DOTS-268+DOTS-1268+DOTS-368+DOTS-1368+DOTS-2368
   +DOTS-12368+DOTS-468+DOTS-1468+DOTS-2468+DOTS-12468+DOTS-3468+DOTS-13468+DOTS-23468+DOTS-123468
   +DOTS-568+DOTS-1568+DOTS-2568+DOTS-12568+DOTS-3568+DOTS-13568+DOTS-23568+DOTS-123568+DOTS-4568
   +DOTS-14568+DOTS-24568+DOTS-124568+DOTS-34568+DOTS-134568+DOTS-234568+DOTS-1234568+DOTS-78
   +DOTS-178+DOTS-278+DOTS-1278+DOTS-378+DOTS-1378+DOTS-2378+DOTS-12378+DOTS-478+DOTS-1478
   +DOTS-2478+DOTS-12478+DOTS-3478+DOTS-13478+DOTS-23478+DOTS-123478+DOTS-578+DOTS-1578+DOTS-2578
   +DOTS-12578+DOTS-3578+DOTS-13578+DOTS-23578+DOTS-123578+DOTS-4578+DOTS-14578+DOTS-24578
   +DOTS-124578+DOTS-34578+DOTS-134578+DOTS-234578+DOTS-1234578+DOTS-678+DOTS-1678+DOTS-2678
   +DOTS-12678+DOTS-3678+DOTS-13678+DOTS-23678+DOTS-123678+DOTS-4678+DOTS-14678+DOTS-24678
   +DOTS-124678+DOTS-34678+DOTS-134678+DOTS-234678+DOTS-1234678+DOTS-5678+DOTS-15678+DOTS-25678
   +DOTS-125678+DOTS-35678+DOTS-135678+DOTS-235678+DOTS-1235678+DOTS-45678+DOTS-145678+DOTS-245678
   +DOTS-1245678+DOTS-345678+DOTS-1345678+DOTS-2345678+DOTS-12345678&akkwafabarau.alarau
   &aqalafabarau&akalafabarau&aoahalafabarau&akkwafkueb&aqalafkueb&akalafkueb&bdafabayau
   &bxafabayau*ewaf&bdewaf&aqalivaf&akalivaf&aqewivaf&akewivaf*kwewivaf*afabfzSTEM&bxafTOeb
   &bdafTOeb&akafabgtabarau:alarau*kwafabgt:abarau;alarau&aqARROW-TAIL&akARROW-TAIL&aqalARROW-TAIL
   &akalARROW-TAIL&aqafTOaxeq&akafTOaxeq&aqafkuebTOaxeq&akafkuebTOaxeq&fvhcapgqfyaf*fyapgqhcaf
   *hcafabbo*fyafabbo&gqfyafabbo*hcafabbo&fvhcafapfvfyaf*fyafapgqfyaf&gqfyafapgqhcaf*hcafapfvhcaf
   &omdsfcwdds&wddsfcomds&gqfyaffcfvfyaf&fvfyaffcgqfyaf&wddsfcfvfyaf&omdsfcgqfyaf&fvfyaffcfvhcaf
   *hcaffcfvfyaf&ofafcdDIRECTLYah&afcdakTHEN CURVINGbx:bd+bdTHEN CURVINGaq:ak&RIGHT-SIDEznkfaf
   &LEFT-SIDEznfhaf&lrznfhaf&heznfhaf&lrznkfafabni+fhafabch&cvahSEMICIRCULARkfaf
   *aoSEMICIRCULARfhaf&fhgmbuaf&kfgmbuaf&akafaiffaqaf&aqafaiffakaf&ffakafaiaqaf&akafabcham
   &aqafabcham&akafmaX&aoahafmaadbu&bxkwafkuadbu&aoecUPaheccpdi+cpahecUPdi&UPecahcpecaodi
   +aocpecahdi&aoecUPahecUPdi&UPecahcpecahdi&aoeccpaheccpdi&UPecaocpecaodi&aqdiabecUP TOeb
   &akdiabecUP TOeb&bxdiabecahTOeb&bddiabecahTOeb&aqdiabeccpTOeb&akdiabeccpTOeb&bxdiabecaoTOeb
   &bddiabecaoTOeb&aqdiabecUPkueb&akdiabecUPkueb&bxdiabecahkueb&bddiabecahkueb&aqdiabeccpkueb
   &akdiabeccpkueb&bxdiabecaokueb&bddiabecaokueb&aqdiabecUPaiaqdiabeccp&bxdiabecaotdbxdiabecah
   &akdiabecUPaiakdiabeccp&bddiabecaotdbddiabecah&aqdiabecUPaiakdiabecUP.cpaiakdiabeccp
   &akdiabecUPaiaqdiabecUP.cpaiaqdiabeccp&aqdiabecUPaiemiv.cpamemiv&akdiabecUPaiemiv.cpamemiv
   &bxdiabecaotdbddiabecah&bddiabecaotdbxdiabecah&ahalafabqgqh&glagaiakaf&csdyaiakaf&aqafaicsdy
   &akafaicsdy,mdcjTO&caaiaqaf&aqafmaca&bkaiakaf&inaiakaf&aqafmain&gzaiaqaf&aoFISHgt&ahFISHgt
   &UP FISHgt&cpFISHgt&ewarebDELIMITER&ZrsSPOT+TYPEiq&aoazjqbf&ahazjqbf&aoazcq&ahazcq&Zrsaoyfbf
   +ahyfbf+aoBINDINGbf+ahBINDINGbf&aobnbfabgr&ahbnbfabgr&aobnbfabTICK INlrhf&ahbnbfabTICK INhehf
   &aobnbfabTICK INhehf&ahbnbfabTICK INlrhf&aofdbfabbv&ahfdbfabbv&aozncabf&ahznbkbf&alaoznbkbf
   *ahzncabf&aoaxiykmbf&ahaxiykmbf&fzFENCE&arwjfq&MEASUREDfdOPENINGao&ahfdiiabbn&MEASUREDahfdabbv
   &fdabSkr&cyfd&SPHERICALfdOPENINGao,UP&crfd&bzfd&fdabgr&bzfdabgr&lifdOPENING UP,cp
   &MEASUREDfdabejARM ENDING INafcdUPapah_ao>cpapah_ao>ahapUP>aoapUP>ahapcp>aoapcp&bzEMPTY SET
   &EMPTY SETabmt,adbuai,ahafai,aoafai&buabayeb&dnareb*rq*irhq*PERPENDICULAR
   &buDIVIDED BYayebaplrcoDIVIDED BYareb*abSUPERIMPOSED X&dnANTICLOCKWISE-ROTATEDrlag&UPafmabu
   &dnazns*ns*ca*bk&buabadbuTOmmah+blaySTROKES TOmmah&fiomdsoo*wddsoo*dp*adbu*bn&blJOINED SQUARES
   &biabbvai+gr&S INbi&biabSERIFS AThe&ahbiaiaobi&aobitdareb&arebtdahbi&BOWTIEabaocoax+ahcoax
   &axBOWTIE&bqabaocoax+ahcoax&azHOURGLASS&axHOURGLASS&aoWIGGLY FENCE&ahWIGGLY FENCE
   &aoalWIGGLY FENCE&ahalWIGGLY FENCE&INCOMPLETEwp&TIEdgwp&wpNEGATEDabareb&DOUBLE-ENDED MULTIMAP
   &bnabCONTOURED OUTLINE&INCREASES AS&SHUFFLEmr&glagapijrq:abcsai&IDENTICAL TOapijrq&GLEICH STARK
   &THERMODYNAMIC&hxbiabaocoax,ahcoax&axeqabcpaf*mu&azbuabcpaf&axbuabcpaf&ERROR-BARREDazbn*axbn
   *azeq*axeq*azbu*axbu&RULE-DELAYED&irhqdy&hqabmt&irhqabayau&BIGhq*irhq&alch&ewch&eurhfdbf
   &earhfdbf&TINY&MINY&N-ARYdnbvdy+chdy+bqdy*oadyabbv.ch*bngidy+oady&blmsapdy+ORdy&N-ARYbqdy
   &MODULOblSUM&SUMMATIONabig&luigdy&FINITE PARTig&igabalau*AVERAGEaboo&CIRCULATION FUNCTION
   &fhINTEGRATION&fqINTEGRATIONabRECTANGULAR PATH AROUND POLE,SEMICIRCULAR PATH AROUND POLE
   +izINCLUDINGmmPOLE&igAROUND Asddy&QUATERNIONigdy&igabaqafabbo+bqag+gi+oa+mt+gr&JOIN&eeaobidy
   &ZrsSCHEMA COMPOSITION,PIPING,PROJECTION&chagabadbuai,bgfsai,csai,bvam,csam,sfbl,axbi
   &niagabenai,bvam,wddb,omdb&chagINaocobu,ahcobu&VECTOR ORgdmr&hyagabbvai,gr&wamrabhegm&SMASHmr
   &hyagINaocobu,ahcobu&dnhyagabbgfs&hyagINalbu&dnrlag&chagINbi&niagINbi&hyagINbi&INTERIORmr
   &RIGHTHAND INTERIORmr&ZrsRELATIONAL COMPOSITION&AMALGAMATION OR COPRODUCT&giabbv&oaabniag+mt
   &giabmt+msap&oaabmsOR*aigi&giaioa&oaaiebaigi&giaiebaioa&oatdapJOINEDaboa&gitdapJOINEDabgi
   &gmoaabSERIFS*giabSERIFS&albngi+oa&gmoaabSERIFSapSMASHmr&msapabbvai*ORabbvai&almsap+OR
   &blINTERSECTINGmsap,OR&SLOPINGeeOR+ap&msOR OVERLAPPINGmsap*apabbbSTEM*ORabbbSTEM*apabayiv
   *ORabayiv*apabalmt,gr,algr&adVEEabgr&msORabalmt.gr&ZrsDOMAIN ANTIRESTRICTION
   +RANGE ANTIRESTRICTION&glagabbvam&IDENTICALabbvai&ewayebabalarau.ewarau&csdyabbvai,omdb&weniwe
   &CONGRUENTabbvai&glabdp&mdcjTOabbgfs&skcjORcjTO&glagaichag&chagaiglag&glagaicsdy&aliqcj
   &blCONSECUTIVEglSIGNS&atCONSECUTIVEglSIGNS&glagabbldbaiapbldbam&ihabbmdbai&caabbukr&bkabbukr
   &caabfpbaai&bkabfpbaai&caORijcjTO&bkORijcjTO&caORijcjTOabbvkr&bkORijcjTOabbvkr&caORijcjTOabbvai
   &bkORijcjTOabbvai&caORijcjTOabbvaiah&bkORijcjTOabbvaiao&caORzs&bkORzs&caapriizcjTO&bkapriizcjTO
   &caapizzs&bkapizzs&caairjcjaibk&bkairjcjaica&caaiweORcj&bkaiweORcj&caaiweaibk&bkaiweaica
   &caaibkairjcj&bkaicaairjcj&caaiijcjaibkaiijcj&bkaiijcjaicaaiijcj&ijcjTO ORca.bk.caabbvkr
   .bkabbvkr&rjcjTO ORca.bk*ijcjTO ORca:bk&weORca+bk*aicaaiglag+bkaiglag&alNESTEDca+bk+caabgr
   &bkOVERLAPPINGca*tdca&cagmBYnl&bkgmBYnl&cagmBYnlaiijcj&bkgmBYnlaiijcj&SMALLER THAN&LARGER THAN
   &SMALLER THAN ORcjTO&LARGER THAN ORcjTO&glagabBUMPYai&llairiglag&lmairiglag&llairiizcjTO
   &lmairiizcjTO&llaiglag&lmaiglag&llaiizcjTO&lmaiizcjTO&llaimdcjTO&lmaimdcjTO&llaiizmdcjTO
   &lmaiizmdcjTO&alll*lm&inabbv&gzabbv&inabchagam&gzabchagam&inabhyagam&gzabhyagam
   &inOF ORcjTOabbvai&gzOF ORcjTOabbvai&inOFaiglag&gzOFaiglag&inOFaicsdy&gzOFaicsdy&inOFaimdcjTO
   &gzOFaimdcjTO&inOFaiizcjTO&gzOFaiizcjTO&bnaoejqudy*ahejqudy&gmin*gz*inORcjTO*gzORcjTO&inaigz
   &gzaiin&inaiin&gzaigz*tdin+apJOINED BYivabin&qmOF OPENINGbd&PITCHFORKabTEElr&TRANSVERSALgi
   &FORKING&NONFORKING&ffaojt*cpjt*UPjt&PERPENDICULARabS&arebewahpj&alarebaopj&arebalaopj
   &alarebalaopj&emivkuaoMEMBER OFalar&ffcpjtabmt*UPjtabgr,aiffcpjt&alcpjt*UPjt*auizag&bzalauizag
   &DOESizDIVIDEabbzNEGATIONoo&arfqabbuai.am&cpjtabbuam&rqabayau+csdy&ewarebBINARY RELATION,abayau
   *iqdy*NESTEDca+bk&rjijcaORcjTO+bkORcjTO&ewhqBINARY RELATION&eeewarebdy&alhqdy&azareb
   &N-ARYazareb&fvfyazaf*hcazaf&gqfyazaf*hcazaf&aoahazaf&aqaxaf&bxaxaf&bdaxaf&fvfyaxaf*hcaxaf
   &gqfyaxaf*hcaxaf&aoahaxaf&UPcpaxaf&akafabTIPbd.bx&aqafabTIPbd.bx&bnablrcoax+hecoax+dhahdscoax
   +cvaodscoax&eqabaocoax+ahcoax+lrcoax+hecoax&fzbn&axeebn&azeebn&axltadbn&azltadbn&axPENTAGON
   &azPENTAGON*HEXAGON&axHEXAGON&ayaxHEXAGON&axeebu*cbeq&azcbeq&axcbmu&azcbmu&axadeq+mu&azadmu
   &axayELLIPSE&azayELLIPSE&axarELLIPSE&azarELLIPSE&aoafabadbu&ataqmf&aoafabdnch&emaqSQUIGGLEaf
   &aqkwafabarau.alarau,kueb+ewivaf*afabfzSTEM,gtabarau:alarau*kwafabgt:abarau;alarau*afmaX
   &ofafcdDIRECTLYao&glagaiaqaf&ircsdyaiaqaf&aqafaiirmdcjTO&akafmabk,gz&aqluaf&akluaf&ircsdyaiakaf
   &akafaiirmdcjTO&csdyaiaqaf&aqafaimdcjTO,ircsdy&akafaiircsdy&bdawwjaf&ffijfvaf*BACKSLANTEDgqaf
   &azcbgk&axadgk&azadgk&axeaPENTAGON&azeaPENTAGON&bheebu*OVALabOVALkr*buabbukr+*dnor
   &ijfvafabHOOKEDqh&BACKSLANTEDgqafabHOOKEDgt&ijfvafabaygt&BACKSLANTEDgqafabaygt&ldafcdbdTHENfvfy
   &ffldafcdbdTHENfvfy&aqawaf&bxawaf&akawaf&bdawaf&aoahawaf&UPcpawaf&fvhcawaf*fyawaf&gqfyawaf
   *hcawaf&aqawopaf&bxawopaf&akawopaf&bdawopaf&kfawejbuaf&fhawejbuaf&aqawafTOeb&bxawafTOeb
   &akawafTOeb&bdawafTOeb@2B76&fvhcawafTOeb*fyawafTOeb&gqfyawafTOeb*hcawafTOeb&aqawafabalayau
   &bxawafabalayau&akawafabalayau&bdawafabalayau&ayTAB KEY&arTAB KEY&aqawafdgakawaf
   &bxawafaqOFbdawaf&akawafdgaqawaf&bdawafaqOFbxawaf&aqawwqmf&bxawwqmf&akawwqmf&bdawwqmf
   &aqaxdnazaf&bxaxdnazaf&akaxdnazaf&bdaxdnazaf&fhawahU-SHAPEDaf+heU-SHAPEDaf+aoU-SHAPEDaf
   +lrU-SHAPEDaf&RETURNao*ah&NEWLINEao*ah&bmhfmfCIRCLINGfh&akaxaf@2B97&avmkTYPE A ELECTRONICS
   &THREE-D TOP-LIGHTEDaqetbw*RIGHT-LIGHTEDbxetbw*TOP-LIGHTEDaketbw*LEFT-LIGHTEDbdetbw&axaqetbw
   *bxetbw*aketbw*bdetbw&bdawafabemTIPaq;ak&bxawafabemTIPaq;ak&aqawafabemTIPbx&akawafabemTIPbx
   &aqawafabemTIPbd&akawafabemTIPbd&axrhbdapaqaf.akaf+bxapaqaf.akaf+aqapbxaf+akapbxaf+aqapbdaf
   +akapbdaf&RIBBONafcpao,ah+UPao,ah+aoUP+ahUP+aocp+ahcp&bxazafkuebabayeb&UPbwIN Asmqu
   &OVERLAPPINGazSQUARES+apaxSQUARES*axSQUARES&zpquabclX&dnX*lpX&axbntt*eqtt&craxPENTAGON
   &ayaxOCTAGON&axOCTAGON*cbibbitt+hxbitt+eubitt+eabitt&NEPTUNEaebl&lrcoaxbu&hecoaxbu&clbmfgaxCUSP
   &czclbmfgaxCUSP&azbmfgCUSP&czazbmfgCUSP&bnPOSITIONpb&UNCERTAINTYag&GROUPba&PLUTOaebl+at+bm+bt
   &TRANSPLUTO&PROSERPINA&ASTRAEA&HYGIEA&PHOLUS&NESSUS&azmgSELENA&axeqONgd&TRUEclmgARTA&CUPIDO
   &HADES&ZEUS&KRONOS&APOLLON&ADMETOS&VULCANUS&POSEIDON&aocoaxgk&ahcoaxgk&gkabaocoax+ahcoax
   &aqkwafabbiARROWHEADS&bxkwafabbiARROWHEADS&akkwafabbiARROWHEADS&bdkwafabbiARROWHEADS&ERISaebr
   +bl&SEDNA&RUSSIAN ASTROLOGICALavVIGINTILE,NOVILE,QUINTILE,BINOVILE,SENTAGON,TREDECILE
   &glagabwpam&UNITEDav&SEPARATEDav&DOUBLEDav&PASSEDav&bzahfd&HELLSCHREIBER PAUSEav"

end Collation.Unicode.Name
